import OutageLedger.Proofs.Import.Pool
import OutageLedger.Proofs.Import.Rehearsal

/-
  Importers that take turns on one store, in any order. Each takes its own turns in the order of its
  program; nothing is promised of the turns that others take in between. Main statements:
  `importers_interleave`, what holds after any turns and when all have ended, and `leads_play` and
  `serves_play`, importers can take turns in every order.
-/

namespace OutageLedger

open Function Store

/-! ## Jobs in a pool -/

namespace Job

/-- The job is not told which outage to add an alert to. -/
def IsOpen : Job → Prop
  | backfill .. => True
  | live _ target => target = none

/-- How many alerts the importer says it has added. -/
def added : (j : Job) → j.Result → Nat
  | backfill _ stats _, res => res.1.newAlerts - stats.newAlerts
  | live .., res => Importer.importedBy res

/-- The store has called an alert a duplicate and then not found it. -/
def hasVanished : (j : Job) → j.Result → Bool
  | backfill .., _ => false
  | live .., res => Importer.hasVanished res

/-- What has been said and done when the job has ended. -/
structure Settled (j : Job) (res : j.Result) (g : View) : Prop where
  settled : g.IsSettled
  added : j.added res = g.added
  found : j.hasVanished res = false

theorem keeps_importer {j : Job} (h : j.IsOpen) :
    j.importer.Keeps View.contract j.Settled View.empty := by
  have hempty : View.empty.IsSettled := ⟨rfl, fun _ ha => absurd ha List.not_mem_nil⟩
  cases j with
  | backfill source stats r =>
    refine (Importer.keeps_walk r.effectiveLimit_ne_zero hempty).mono fun res g hres => ?_
    obtain ⟨hsettled, hadded⟩ := hres
    refine ⟨hsettled, ?_, rfl⟩
    show res.1.newAlerts - stats.newAlerts = g.added
    have hnone : View.empty.added = 0 := rfl
    omega
  | live id target =>
    obtain rfl : target = none := h
    refine (Importer.keeps_importAlert hempty).mono fun res g hres => ?_
    obtain ⟨hsettled, hadded, hfound⟩ := hres
    exact ⟨hsettled, (hadded.trans (Nat.zero_add _)).symm, hfound⟩

end Job

/-! ## Schedules -/

/-- Turns in the order in which they were taken, each with the importer that took it. -/
abbrev Schedule (n : Nat) : Type :=
  List (Fin n × ImportTurn)

namespace Schedule

variable {n : Nat} {i j : Fin n} {t : ImportTurn} {σ : Schedule n}

def turns (σ : Schedule n) : List ImportTurn :=
  σ.map (·.2)

/-- The turns of one importer. -/
def own (σ : Schedule n) (i : Fin n) : List ImportTurn :=
  (σ.filter (·.1 = i)).map (·.2)

theorem own_cons_self : own ((i, t) :: σ) i = t :: σ.own i := by
  unfold own
  rw [List.filter_cons_of_pos (by simp), List.map_cons]

theorem own_cons_of_ne (h : j ≠ i) : own ((i, t) :: σ) j = σ.own j := by
  unfold own
  rw [List.filter_cons_of_neg (by simpa using h.symm)]

theorem own_append (σ τ : Schedule n) (i : Fin n) : own (σ ++ τ) i = σ.own i ++ τ.own i := by
  unfold own
  rw [List.filter_append, List.map_append]

theorem turns_append (σ τ : Schedule n) : turns (σ ++ τ) = σ.turns ++ τ.turns :=
  List.map_append

end Schedule

open Schedule

/-- The view after some turns. -/
def View.afterAll (g : View) : List ImportTurn → View
  | [] => g
  | ⟨c, r⟩ :: ts => (g.after c r).afterAll ts

theorem View.seen_after (g : View) (t : ImportTurn) :
    (g.after t.call t.reply).seen = g.seen ++ t.alerts := by
  obtain ⟨c, r⟩ := t
  cases c with
  | ask q => rfl
  | store c =>
    have hnone : g.seen = g.seen ++ ImportTurn.alerts ⟨.store c, r⟩ := (List.append_nil _).symm
    rw [← hnone]
    cases c with
    | find key =>
      match r with
      | .ok none => rfl
      | .ok (some a) => rfl
      | .error e => rfl
    | createAlert a =>
      match r with
      | .ok () => rfl
      | .error e => rfl
    | createOutage o => rfl
    | deleteOutage id => rfl
  | _ => exact (List.append_nil _).symm

theorem View.seen_afterAll (g : View) (ts : List ImportTurn) :
    (g.afterAll ts).seen = g.seen ++ fetchedAlerts ts := by
  induction ts generalizing g with
  | nil => exact (List.append_nil _).symm
  | cons t ts ih =>
    show ((g.after t.call t.reply).afterAll ts).seen = _
    rw [ih, View.seen_after, List.append_assoc]
    rfl

/-! ## All turns -/

section

variable {n : Nat} {l₀ l : Ledger} {v : Fin n → View} {ids : List Uuid} {s' : Store} {σ : Schedule n}

/-- After any turns of importers that keep to the contract, everything is in order, and each of them
goes on keeping to it. -/
theorem InOrder.run {ρ : Fin n → Type} {q : (i : Fin n) → Importer (ρ i)}
    {Q : (i : Fin n) → ρ i → View → Prop} (h : InOrder l₀ l v (drawnIds (turns σ) ++ ids))
    (hwork : ∀ i, ∃ p : Importer (ρ i), p.Keeps View.contract (Q i) (v i) ∧
      Program.Leads p (own σ i) (q i))
    (hs : Serves Performs l.store (turns σ) s') :
    ∃ m : Ledger, s' = m.store ∧ l.alerts <+: m.alerts ∧
      InOrder l₀ m (fun i => (v i).afterAll (own σ i)) ids ∧
      ∀ i, (q i).Keeps View.contract (Q i) ((v i).afterAll (own σ i)) := by
  induction σ generalizing l v with
  | nil =>
    refine ⟨l, hs, List.prefix_rfl, h, fun i => ?_⟩
    obtain ⟨p, hkeeps, hleads⟩ := hwork i
    rw [Program.leads_nil_iff.mp hleads]
    exact hkeeps
  | cons it σ ih =>
    obtain ⟨i, t⟩ := it
    obtain ⟨p, hkeeps, hleads⟩ := hwork i
    rw [own_cons_self] at hleads
    obtain ⟨c, next, r, rfl, rfl, hrest⟩ := Program.leads_cons_iff.mp hleads
    have hids : drawnIds (turns ((i, ⟨c, r⟩) :: σ)) =
        drawnIds [⟨c, r⟩] ++ drawnIds (turns σ) := drawnIds_append [⟨c, r⟩] (turns σ)
    rw [hids, List.append_assoc] at h
    have hturns : Serves Performs l.store ([⟨c, r⟩] ++ turns σ) s' := hs
    obtain ⟨s1, hs1, hs2⟩ := serves_append_iff.mp hturns
    obtain ⟨hexpects, m, rfl, hprefix, horder⟩ := h.turn hkeeps.1 hs1
    -- the importer whose turn it was goes on from its new view, all others are where they were
    have hviews : ∀ j, (update v i ((v i).after c r) j).afterAll (own σ j) =
        (v j).afterAll (own ((i, ⟨c, r⟩) :: σ) j) := by
      intro j
      by_cases hj : j = i
      · subst hj
        rw [update_self, own_cons_self]
        rfl
      · rw [update_of_ne hj, own_cons_of_ne hj]
    have hothers : ∀ j, ∃ p : Importer (ρ j),
        p.Keeps View.contract (Q j) (update v i ((v i).after c r) j) ∧
          Program.Leads p (own σ j) (q j) := by
      intro j
      by_cases hj : j = i
      · subst hj
        rw [update_self]
        exact ⟨next r, hkeeps.turn hexpects, hrest⟩
      · obtain ⟨p', hkeeps', hleads'⟩ := hwork j
        rw [own_cons_of_ne hj] at hleads'
        rw [update_of_ne hj]
        exact ⟨p', hkeeps', hleads'⟩
    obtain ⟨m', hm', hprefix', horder', hkeeps'⟩ := ih horder hothers hs2
    simp only [hviews] at horder' hkeeps'
    exact ⟨m', hm', hprefix.trans hprefix', horder', hkeeps'⟩

theorem isRight_empty (l : Ledger) (ids : List Uuid) : View.empty.IsRight l ids := by
  refine ⟨fun u hu => ?_, fun u hu => ?_, fun key hkey => absurd hkey List.not_mem_nil⟩
  · cases hu
  · cases hu

theorem apart_empty : View.empty.Apart View.empty := by
  refine ⟨fun u hu => ?_, fun u hu => ?_⟩
  · cases hu
  · cases hu

/-- Before any turn, nothing is drawn or opened. -/
theorem inOrder_start (h : l.Fresh ids) : InOrder l l (fun _ : Fin n => View.empty) ids where
  fresh := h
  right := fun _ => isRight_empty l ids
  apart := fun _ _ _ => apart_empty
  added := by
    show _ = _ + ∑ _ : Fin n, 0
    rw [Finset.sum_const_zero, Nat.add_zero]
  owned := fun _ ho => Or.inl (List.mem_map_of_mem ho)

/-- When no importer waits for anything, each outage that was added has its record. -/
theorem InOrder.count_referents (h : InOrder l₀ l v ids) (hnone : ∀ i, (v i).pending = none)
    {o : Outage} (ho : o ∈ l.outages) (hnew : o.id ∉ l₀.outageIds) :
    l.referents.count o.id = 1 := by
  rcases h.owned o ho with hold | ⟨i, hi⟩ | hone
  · exact absurd hold hnew
  · cases (hnone i).symm.trans hi
  · exact hone

end

/-- Whatever turns importers without a given outage have taken on one store, in whatever order, with ids
that are new: identities are unique and no record has been removed. When all of them have ended, each
alert that any of them has fetched is on record once, each outage that was opened and is still there has
one record, as many records have been added as the importers say, and none has been told of a duplicate
that is not there. -/
theorem importers_interleave {n : Nat} {s s₁ s₂ : Store} (hreachable : s.Reachable)
    (jobs : Fin n → Job) (hopen : ∀ i, (jobs i).IsOpen) (σ τ : Schedule n)
    (hwork : ∀ i, ∃ q, Program.Leads (jobs i).importer (own (σ ++ τ) i) q)
    (hs₁ : Serves Performs s (turns σ) s₁) (hs₂ : Serves Performs s₁ (turns τ) s₂)
    (hfresh : s.Fresh (drawnIds (turns (σ ++ τ)))) :
    ∃ l l₁ l₂ : Ledger, s = l.store ∧ s₁ = l₁.store ∧ s₂ = l₂.store ∧
      l₁.keys.Nodup ∧ l.alerts <+: l₁.alerts ∧ l₁.alerts <+: l₂.alerts ∧
      ∀ runs : (i : Fin n) → Program.Run (jobs i).importer,
        (∀ i, (runs i).turns = own (σ ++ τ) i) →
        (∀ i, ∀ a ∈ fetchedAlerts (runs i).turns, l₂.keys.count a.key = 1) ∧
        (∀ o ∈ l₂.outages, o.id ∉ l.outageIds → l₂.referents.count o.id = 1) ∧
        l₂.alerts.length = l.alerts.length + ∑ i, (jobs i).added (runs i).result ∧
        ∀ i, (jobs i).hasVanished (runs i).result = false := by
  obtain ⟨l, rfl⟩ := hreachable.exists_ledger
  choose q hq using hwork
  have hparts : ∀ i, ∃ p, Program.Leads (jobs i).importer (own σ i) p ∧
      Program.Leads p (own τ i) (q i) := by
    intro i
    have hall := hq i
    rw [own_append] at hall
    exact Program.leads_append.mp hall
  choose p hp hpq using hparts
  have hstart := hfresh.ledger
  rw [turns_append, drawnIds_append] at hstart
  obtain ⟨l₁, rfl, hprefix₁, horder₁, hkeeps₁⟩ := (inOrder_start hstart).run
    (fun i => ⟨_, Job.keeps_importer (hopen i), hp i⟩) hs₁
  rw [← List.append_nil (drawnIds (turns τ))] at horder₁
  obtain ⟨l₂, rfl, hprefix₂, horder₂, hkeeps₂⟩ :=
    horder₁.run (fun i => ⟨_, hkeeps₁ i, hpq i⟩) hs₂
  refine ⟨l, l₁, l₂, rfl, rfl, rfl, l₁.keys_nodup, hprefix₁, hprefix₂, fun runs hruns => ?_⟩
  have hsettled : ∀ i, (jobs i).Settled (runs i).result
      ((View.empty.afterAll (own σ i)).afterAll (own τ i)) := by
    intro i
    have hends := (runs i).ends
    rw [hruns i] at hends
    have hdone := hkeeps₂ i
    rw [Program.leads_unique (hq i) hends] at hdone
    exact hdone
  have hseen : ∀ i, ((View.empty.afterAll (own σ i)).afterAll (own τ i)).seen =
      fetchedAlerts (runs i).turns := by
    intro i
    rw [View.seen_afterAll, View.seen_afterAll, hruns i, own_append, fetchedAlerts_append]
    rfl
  refine ⟨fun i a ha => ?_, fun o ho hnew => ?_, ?_, fun i => (hsettled i).found⟩
  · rw [← hseen i] at ha
    have hknown := (hsettled i).settled.known a ha
    exact List.count_eq_one_of_mem l₂.keys_nodup ((horder₂.right i).known a.key hknown)
  · exact horder₂.count_referents (fun i => (hsettled i).settled.pending) ho hnew
  · rw [horder₂.added]
    exact congrArg _ (Finset.sum_congr rfl fun i _ => (hsettled i).added.symm)

/-! ## Orders -/

section

variable {n : Nat} {ρ : Fin n → Type} {κ π : Type}

/-- The turns that importers take in an order, what is left of them, and the state after. An importer
that has ended is passed over. -/
def play (handler : Handler importing κ) :
    List (Fin n) → ((i : Fin n) → Importer (ρ i)) → κ →
      Schedule n × ((i : Fin n) → Importer (ρ i)) × κ
  | [], p, x => ([], p, x)
  | i :: order, p, x =>
    match p i with
    | .done _ => play handler order p x
    | .call c next =>
      let rest := play handler order (update p i (next (handler c x).1)) (handler c x).2
      ((i, ⟨c, (handler c x).1⟩) :: rest.1, rest.2)

theorem play_of_done {handler : Handler importing κ} {order : List (Fin n)}
    {p : (i : Fin n) → Importer (ρ i)} {x : κ} {i : Fin n} {a : ρ i} (hp : p i = .done a) :
    play handler (i :: order) p x = play handler order p x := by
  rw [play, hp]

theorem play_of_call {handler : Handler importing κ} {order : List (Fin n)}
    {p : (i : Fin n) → Importer (ρ i)} {x : κ} {i : Fin n} {c : ImportCall}
    {next : c.Reply → Importer (ρ i)} (hp : p i = .call c next) :
    play handler (i :: order) p x =
      ((i, ⟨c, (handler c x).1⟩) ::
        (play handler order (update p i (next (handler c x).1)) (handler c x).2).1,
        (play handler order (update p i (next (handler c x).1)) (handler c x).2).2) := by
  rw [play, hp]

theorem leads_play (handler : Handler importing κ) (order : List (Fin n))
    (p : (i : Fin n) → Importer (ρ i)) (x : κ) (j : Fin n) :
    Program.Leads (p j) (own (play handler order p x).1 j) ((play handler order p x).2.1 j) := by
  induction order generalizing p x with
  | nil => exact .stay (p j)
  | cons i order ih =>
    cases hp : p i with
    | done a =>
      rw [play_of_done hp]
      exact ih p x
    | call c next =>
      rw [play_of_call hp]
      have hrest := ih (update p i (next (handler c x).1)) (handler c x).2
      by_cases hj : j = i
      · subst hj
        rw [own_cons_self, hp]
        rw [update_self] at hrest
        exact .turn c next _ hrest
      · rw [own_cons_of_ne hj]
        rwa [update_of_ne hj] at hrest

theorem serves_play {s : Stage π} (h : s.faults = []) (order : List (Fin n))
    (p : (i : Fin n) → Importer (ρ i)) (x : Rehearsal π) :
    Serves Performs x.store (turns (play s.handler order p x).1)
      (play s.handler order p x).2.2.store := by
  induction order generalizing p x with
  | nil => rfl
  | cons i order ih =>
    cases hp : p i with
    | done a =>
      rw [play_of_done hp]
      exact ih p x
    | call c next =>
      rw [play_of_call hp]
      have hrest := ih (update p i (next (s.handler c x).1)) (s.handler c x).2
      have hone : Serves Performs x.store [⟨c, (s.handler c x).1⟩] (s.handler c x).2.store :=
        Stage.serves_turns h (Program.perform (S := importing) c) x
      exact serves_append_iff.mpr ⟨_, hone, hrest⟩

end

namespace Sample

/-- Two imports of the same alert. -/
def pair : Fin 2 → Job :=
  fun _ => .live "A" none

/-- Both have opened an outage before either adds the alert. -/
def early : Schedule 2 × ((i : Fin 2) → Importer (pair i).Result) × Rehearsal Unit :=
  play (stage (.ok page) []).handler [0, 1, 0, 1, 0, 1, 0, 1, 0, 1] (fun i => (pair i).importer)
    (start .empty)

/-- Both go on to their ends. -/
def rest : Schedule 2 × ((i : Fin 2) → Importer (pair i).Result) × Rehearsal Unit :=
  play (stage (.ok page) []).handler [0, 1, 0, 1, 0, 1, 1, 1, 1] early.2.1 early.2.2

theorem leads_early (i : Fin 2) :
    Program.Leads (pair i).importer (own early.1 i) (early.2.1 i) := by
  unfold early
  exact leads_play (stage (.ok page) []).handler _ (fun i => (pair i).importer) (start .empty) i

theorem leads_rest (i : Fin 2) : Program.Leads (early.2.1 i) (own rest.1 i) (rest.2.1 i) := by
  unfold rest
  exact leads_play (stage (.ok page) []).handler _ early.2.1 early.2.2 i

theorem leads_pair (i : Fin 2) :
    Program.Leads (pair i).importer (own (early.1 ++ rest.1) i) (rest.2.1 i) := by
  rw [own_append]
  exact Program.leads_append.mpr ⟨early.2.1 i, leads_early i, leads_rest i⟩

theorem serves_early : Serves Performs .empty (turns early.1) early.2.2.store := by
  unfold early
  exact serves_play rfl _ (fun i => (pair i).importer) (start .empty)

theorem serves_rest : Serves Performs early.2.2.store (turns rest.1) rest.2.2.store := by
  unfold rest
  exact serves_play rfl _ early.2.1 early.2.2

theorem exists_result (i : Fin 2) : ∃ a, (rest.2.1 i).result? = some a := by
  have hends : (rest.2.1 i).result?.isSome = true := by
    match i with
    | 0 => decide +kernel
    | 1 => decide +kernel
  exact Option.isSome_iff_exists.mp hends

theorem fresh_pair : Store.empty.Fresh (drawnIds (turns (early.1 ++ rest.1))) := by
  have hids : drawnIds (turns (early.1 ++ rest.1)) = [id 0, id 1, id 2, id 3] := by
    decide +kernel
  rw [hids]
  constructor <;> decide +kernel

end Sample

/-- Both importers find the alert missing, and one of them is refused it in the end. -/
theorem importers_interleave_of_pair :
    ∃ runs : (i : Fin 2) → Program.Run (Sample.pair i).importer,
      (∀ i, (runs i).turns = own (Sample.early.1 ++ Sample.rest.1) i) ∧
      ∃ l l₁ l₂ : Ledger, Store.empty = l.store ∧ Sample.early.2.2.store = l₁.store ∧
        Sample.rest.2.2.store = l₂.store ∧
        l₁.keys.Nodup ∧ l.alerts <+: l₁.alerts ∧ l₁.alerts <+: l₂.alerts ∧
        (∀ i, ∀ a ∈ fetchedAlerts (runs i).turns, l₂.keys.count a.key = 1) ∧
        (∀ o ∈ l₂.outages, o.id ∉ l.outageIds → l₂.referents.count o.id = 1) ∧
        l₂.alerts.length = l.alerts.length + ∑ i, (Sample.pair i).added (runs i).result ∧
        ∀ i, (Sample.pair i).hasVanished (runs i).result = false := by
  choose results hresults using Sample.exists_result
  have hends : ∀ i, (Sample.pair i).importer.Ends (own (Sample.early.1 ++ Sample.rest.1) i)
      (results i) := by
    intro i
    have hleads := Sample.leads_pair i
    rw [Program.eq_done_of_result? (hresults i)] at hleads
    exact hleads
  have hopen : ∀ i, (Sample.pair i).IsOpen := fun _ => rfl
  obtain ⟨l, l₁, l₂, hl, hl₁, hl₂, hnodup, hkept, hkept', hdone⟩ :=
    importers_interleave .empty Sample.pair hopen Sample.early.1 Sample.rest.1
      (fun i => ⟨_, Sample.leads_pair i⟩) Sample.serves_early Sample.serves_rest Sample.fresh_pair
  have hconclusion := hdone (fun i => ⟨_, results i, hends i⟩) fun _ => rfl
  exact ⟨fun i => ⟨_, results i, hends i⟩, fun _ => rfl, l, l₁, l₂, hl, hl₁, hl₂, hnodup, hkept,
    hkept', hconclusion⟩

end OutageLedger
