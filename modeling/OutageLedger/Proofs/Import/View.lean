import OutageLedger.Proofs.Import.Walk
import OutageLedger.Proofs.Program.Contract

/-
  Importers among others. An importer keeps a view of its work: the id that it has drawn last, the outage
  that it has opened and not yet used, and the identities that it has seen on record, from which it
  concludes what the store can reply. Main statements: `keeps_walk` and `keeps_importAlert`, an importer
  without an outage given to it only touches the outage that is pending, and when it has ended none is
  pending, all alerts it has fetched are on record, and it has said how many it has added.
-/

namespace OutageLedger

/-- What an importer knows of its own work. -/
structure View where
  /-- The id drawn last, unless it is in use. -/
  spare : Option Uuid
  /-- The outage opened for an alert that is not yet on record. -/
  pending : Option Uuid
  /-- Identities that are on record. -/
  known : List AlertKey
  /-- The alerts that the service has sent. -/
  seen : List Alert
  /-- How many alerts have been added. -/
  added : Nat

namespace View

def empty : View :=
  ⟨none, none, [], [], 0⟩

/-- The store is asked for the alert, and says that it is on record. -/
def learn (g : View) (key : AlertKey) : View :=
  { g with known := g.known ++ [key] }

def permits (g : View) : ImportCall → Prop
  | .store (.createOutage o) => g.spare = some o.id ∧ g.pending = none
  | .store (.createAlert r) => g.spare = some r.id ∧ g.pending = some r.outageId
  | .store (.deleteOutage id) => g.pending = some id
  | _ => True

def expects (g : View) : (c : ImportCall) → c.Reply → Prop
  | .store (.find key), r => r = .ok none → key ∉ g.known
  | .store (.createOutage _), r => r = .ok ()
  | .store (.createAlert a), r => r = .ok () ∨ r = .error (.duplicate a.key)
  | .store (.deleteOutage _), r => r = .ok true
  | _, _ => True

def after (g : View) : (c : ImportCall) → c.Reply → View
  | .ask q, r => { g with seen := g.seen ++ ImportTurn.alerts ⟨.ask q, r⟩ }
  | .newId, u => { g with spare := some u }
  | .store (.find _), .ok none => g
  | .store (.find key), _ => g.learn key
  | .store (.createOutage o), _ => { g with spare := none, pending := some o.id }
  | .store (.createAlert r), .ok () =>
    { g.learn r.key with spare := none, pending := none, added := g.added + 1 }
  | .store (.createAlert r), .error _ => { g.learn r.key with spare := none }
  | .store (.deleteOutage _), _ => { g with pending := none }
  | _, _ => g

/-- What an importer works by while others may do the same. -/
def contract : Contract importing View :=
  ⟨permits, expects, after⟩

/-- No outage is pending, and all alerts that were fetched are on record. -/
structure IsSettled (g : View) : Prop where
  pending : g.pending = none
  known : ∀ a ∈ g.seen, a.key ∈ g.known

/-- Work that ends with no outage pending, with some more known, and with `n` more added. -/
structure Advances (g g' : View) (n : Nat) : Prop where
  pending : g'.pending = none
  seen : g'.seen = g.seen
  known : g.known ⊆ g'.known
  added : g'.added = g.added + n

theorem Advances.refl {g : View} (h : g.pending = none) : g.Advances g 0 :=
  ⟨h, rfl, fun _ hk => hk, rfl⟩

theorem Advances.trans {g g' g'' : View} {n m : Nat} (h : g.Advances g' n) (h' : g'.Advances g'' m) :
    g.Advances g'' (n + m) :=
  ⟨h'.pending, h'.seen.trans h.seen, fun _ hk => h'.known (h.known hk),
    by rw [h'.added, h.added, Nat.add_assoc]⟩

theorem known_learn {g : View} {key : AlertKey} : g.known ⊆ (g.learn key).known :=
  fun _ hk => List.mem_append_left _ hk

theorem mem_learn {g : View} {key : AlertKey} : key ∈ (g.learn key).known :=
  List.mem_append_right _ List.mem_cons_self

end View

namespace Importer

open View

variable {α : Type} {g : View} {a : Alert}

/-! ## Adding an alert -/

/-- How many alerts have been added with this result. -/
def madeBy : Except IngestError Created → Nat
  | .ok _ => 1
  | .error _ => 0

/-- Adding an alert to an outage of its own either adds it or finds it a duplicate; the outage is not
pending any more, and the alert is on record. -/
theorem keeps_create {stamp : Stamp} (hg : g.pending = none) :
    (create stamp a none).Keeps contract
      (fun res g' => g.Advances g' (madeBy res) ∧ a.key ∈ g'.known ∧
        (∀ e, res = .error e → e = .duplicate a.key)) g := by
  refine ⟨trivial, fun time _ => ⟨trivial, fun u _ => ⟨⟨rfl, hg⟩, fun r hr => ?_⟩⟩⟩
  cases hr
  refine ⟨trivial, fun v _ => ⟨⟨rfl, rfl⟩, fun r hr => ?_⟩⟩
  -- either way the identity is on record now; the outage is used in one and removed in the other
  rcases hr with rfl | rfl
  · exact ⟨⟨rfl, rfl, known_learn, rfl⟩, mem_learn, fun e he => by cases he⟩
  · refine ⟨rfl, fun r hr => ?_⟩
    cases hr
    refine ⟨trivial, fun _ _ => ⟨⟨rfl, rfl, known_learn, rfl⟩, mem_learn, fun e he => ?_⟩⟩
    cases he
    rfl

/-- Whatever is looked up is on record unless nothing is found. -/
theorem keeps_existing {Q : Except IngestError (Option AlertRecord) → View → Prop}
    (hfound : ∀ r, Q (.ok (some r)) (g.learn a.key))
    (herror : ∀ e, Q (.error (.lookup a.externalId e)) (g.learn a.key))
    (hnone : a.key ∉ g.known → Q (.ok none) g) : (existing a).Keeps contract Q g := by
  refine ⟨trivial, fun r hr => ?_⟩
  match r, hr with
  | .ok none, hr => exact hnone (hr rfl)
  | .ok (some r), _ => exact hfound r
  | .error e, _ => exact herror e

/-! ## Pages -/

theorem keeps_ingest (hg : g.pending = none) :
    (ingest a).Keeps contract
      (fun res g' => g.Advances g' (ingestedBy res) ∧ a.key ∈ g'.known) g := by
  refine Program.Keeps.bind (keeps_existing (fun r => ?_) (fun e => ?_) (fun _ => ?_))
  · exact ⟨⟨hg, rfl, known_learn, rfl⟩, mem_learn⟩
  · exact ⟨⟨hg, rfl, known_learn, rfl⟩, mem_learn⟩
  · refine Program.Keeps.bind ((keeps_create hg).mono fun res g' h => ?_)
    cases res with
    | ok c => exact ⟨h.1, h.2.1⟩
    | error e => exact ⟨h.1, h.2.1⟩

/-- What a run has counted as new so far is what it has added. -/
def Agrees (stats : ImportStats) (g : View) (stats' : ImportStats) (g' : View) : Prop :=
  ∃ n, g.Advances g' n ∧ stats'.newAlerts = stats.newAlerts + n

theorem keeps_process {stats : ImportStats} (hg : g.pending = none) :
    (process stats a).Keeps contract
      (fun stats' g' => Agrees stats g stats' g' ∧ a.key ∈ g'.known) g := by
  rw [process_eq]
  refine Program.Keeps.bind ((keeps_ingest hg).mono fun res g' h => ?_)
  obtain ⟨hadvances, hknown⟩ := h
  exact ⟨trivial, fun _ _ => ⟨⟨_, hadvances, newAlerts_count stats res⟩, hknown⟩⟩

theorem keeps_processAll {as : List Alert} {stats : ImportStats} (hg : g.pending = none) :
    (processAll false stats as).Keeps contract
      (fun stats' g' => Agrees stats g stats' g' ∧ ∀ a ∈ as, a.key ∈ g'.known) g := by
  induction as generalizing stats g with
  | nil => exact ⟨⟨0, .refl hg, rfl⟩, fun _ h => absurd h List.not_mem_nil⟩
  | cons a as ih =>
    show Program.Keeps contract _ (process stats a >>= fun s => processAll false s as) g
    refine Program.Keeps.bind ((keeps_process hg).mono fun stats' g' h => ?_)
    obtain ⟨⟨n, hadvances, hstats⟩, hknown⟩ := h
    refine (ih hadvances.pending).mono fun stats'' g'' h' => ?_
    obtain ⟨⟨m, hadvances', hstats'⟩, hknown'⟩ := h'
    refine ⟨⟨n + m, hadvances.trans hadvances', ?_⟩, fun b hb => ?_⟩
    · rw [hstats', hstats, Nat.add_assoc]
    · rcases List.mem_cons.mp hb with rfl | hb
      · exact hadvances'.known hknown
      · exact hknown' b hb

/-- What a run has said and done when it has ended. -/
def RunSettled (stats : ImportStats) (g : View) (res : ImportStats × Option ImportError) (g' : View) :
    Prop :=
  g'.IsSettled ∧ res.1.newAlerts + g.added = stats.newAlerts + g'.added

theorem keeps_walk {source : Source} {stats : ImportStats} {r : FetchRequest} (h : r.limit ≠ 0)
    (hg : g.IsSettled) :
    (walk source false stats r h).Keeps contract (RunSettled stats g) g := by
  fun_induction walk source false stats r h generalizing g with
  | case1 stats r h ih =>
    refine Program.Keeps.bind ⟨trivial, fun answer _ => ?_⟩
    cases answer with
    | error e =>
      refine ⟨⟨hg.pending, fun a ha => hg.known a ?_⟩, rfl⟩
      exact (List.append_nil g.seen) ▸ ha
    | ok page =>
      refine ⟨trivial, fun _ _ =>
        Program.Keeps.bind (p := processAll false (stats.fetch page) (AlertPage.alerts page)) ?_⟩
      have hseen : View.pending { g with seen := g.seen ++ AlertPage.alerts page } = none := hg.pending
      refine (keeps_processAll hseen).mono fun stats' g' h' => ?_
      obtain ⟨⟨n, hadvances, hstats⟩, hknown⟩ := h'
      have hcount : stats'.newAlerts + g.added = stats.newAlerts + g'.added := by
        have hadded : g'.added = g.added + n := hadvances.added
        have hnew : stats'.newAlerts = stats.newAlerts + n := hstats
        omega
      have hsettled : g'.IsSettled := by
        refine ⟨hadvances.pending, fun a ha => ?_⟩
        rw [hadvances.seen] at ha
        rcases List.mem_append.mp ha with ha | ha
        · exact hadvances.known (hg.known a ha)
        · exact hknown a ha
      split
      · exact ⟨hsettled, hcount⟩
      · split
        · exact ⟨trivial, fun _ _ => ⟨hsettled, hcount⟩⟩
        · rename_i next hnext
          refine ⟨trivial, fun _ _ => (ih stats' next hnext hsettled).mono fun res g'' hrest => ?_⟩
          refine ⟨hrest.1, ?_⟩
          have htail := hrest.2
          omega

/-! ## Single alerts -/

/-- How many alerts have been added with this result. -/
def importedBy : Except LiveError LiveImport → Nat
  | .ok r => if r.created then 1 else 0
  | .error _ => 0

/-- The store has called the alert a duplicate and then not found it. -/
def hasVanished : Except LiveError LiveImport → Bool
  | .error (.vanished _) => true
  | _ => false

/-- What the import of an alert has said and done when it has ended. -/
def LiveSettled (g : View) (res : Except LiveError LiveImport) (g' : View) : Prop :=
  g'.IsSettled ∧ g'.added = g.added + importedBy res ∧ hasVanished res = false

/-- With the identity on record, the alert is found again. -/
theorem keeps_reread {Q : Except LiveError LiveImport → View → Prop} (hknown : a.key ∈ g.known)
    (hQ : ∀ res, importedBy res = 0 → hasVanished res = false → Q res (g.learn a.key)) :
    (reread a).Keeps contract Q g := by
  refine Program.Keeps.bind (keeps_existing (fun r => ?_) (fun e => ?_) (fun hnot => ?_))
  · exact hQ _ rfl rfl
  · exact hQ _ rfl rfl
  · exact absurd hknown hnot

theorem keeps_importNew (hg : g.pending = none) (hseen : ∀ b ∈ g.seen, b.key ∈ g.known ∨ b = a) :
    (importNew a none).Keeps contract (LiveSettled g) g := by
  refine Program.Keeps.bind ((keeps_create hg).mono fun res g' h => ?_)
  obtain ⟨hadvances, hknown, herror⟩ := h
  have hsettled : g'.IsSettled := by
    refine ⟨hadvances.pending, fun b hb => ?_⟩
    rcases hseen b (hadvances.seen ▸ hb) with hb | rfl
    · exact hadvances.known hb
    · exact hknown
  cases res with
  | ok c => exact ⟨trivial, fun _ _ => ⟨hsettled, hadvances.added, rfl⟩⟩
  | error e =>
    obtain rfl := herror e rfl
    refine keeps_reread hknown fun res hnone hfound => ⟨?_, ?_, hfound⟩
    · exact ⟨hsettled.pending, fun b hb => known_learn (hsettled.known b hb)⟩
    · rw [hnone]
      exact hadvances.added

theorem keeps_importAlert {id : String} (hg : g.IsSettled) :
    (importAlert id none).Keeps contract (LiveSettled g) g := by
  refine Program.Keeps.bind ⟨trivial, fun answer _ => ?_⟩
  match answer with
  | .error e =>
    refine ⟨⟨hg.pending, fun a ha => hg.known a ?_⟩, rfl, rfl⟩
    exact (List.append_nil g.seen) ▸ ha
  | .ok a =>
    have hlearn : (View.learn { g with seen := g.seen ++ ([a] : List Alert) } (Alert.key a)).IsSettled := by
      refine ⟨hg.pending, fun b hb => ?_⟩
      rcases List.mem_append.mp hb with hb | hb
      · exact known_learn (hg.known b hb)
      · rw [List.mem_singleton.mp hb]
        exact mem_learn
    refine Program.Keeps.bind (keeps_existing (fun r => ?_) (fun e => ?_) (fun _ => ?_))
    · exact ⟨trivial, fun _ _ => ⟨hlearn, rfl, rfl⟩⟩
    · exact ⟨hlearn, rfl, rfl⟩
    · refine keeps_importNew hg.pending fun b hb => ?_
      rcases List.mem_append.mp hb with hb | hb
      · exact Or.inl (hg.known b hb)
      · exact Or.inr (List.mem_singleton.mp hb)

end Importer

end OutageLedger
