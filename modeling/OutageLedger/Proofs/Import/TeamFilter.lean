import OutageLedger.Proofs.Import.Abort
import OutageLedger.Proofs.Import.Exchange
import OutageLedger.Proofs.Import.Taken

/-
  Runs for the alerts of some teams, at the service that leaves it to its clients to filter by team. Whatever
  reaches the store concerns an alert that was fetched (`Importer.Paging.concerns`), and the identities of
  these are what is persisted (`Importer.exists_keys_of_run`). Main statement: `teams_filtered`, runs for any
  teams send the same and end alike, each takes in the alerts of its teams only, and two of them one after
  the other persist what one for both does.
-/

namespace OutageLedger

open Store

/-! ## What reaches the store -/

/-- If the call is one to the store, it is about one of the alerts. -/
def ImportCall.Concerns (as : List Alert) : ImportCall → Prop
  | .store c => ∃ a ∈ as, c.Concerns a
  | _ => True

theorem ImportCall.Ingests.concerns {a : Alert} {as : List Alert} (ha : a ∈ as) {c : ImportCall}
    (h : c.Ingests a) : c.Concerns as := by
  cases c with
  | store c => exact ⟨a, ha, h⟩
  | _ => trivial

namespace Importer

variable {dryRun : Bool} {as bs : List Alert}

theorem concerns_process (stats : ImportStats) {a : Alert} (ha : a ∈ as) :
    (process stats a).Makes (ImportCall.Concerns as) := by
  have hingest : (ingest a).Makes (ImportCall.Concerns as) :=
    (ingests_ingest a).mono fun _ h => h.concerns ha
  refine hingest.bind fun res => ?_
  cases res with
  | ok c => cases c <;> exact ⟨trivial, fun _ => trivial⟩
  | error e => cases e <;> exact ⟨trivial, fun _ => trivial⟩

theorem concerns_processAll (stats : ImportStats) (h : ∀ a ∈ as, a ∈ bs) :
    (processAll dryRun stats as).Makes (ImportCall.Concerns bs) := by
  induction as generalizing stats with
  | nil => exact trivial
  | cons a as ih =>
    have hrest := fun stats => ih stats fun a ha => h a (List.mem_cons_of_mem _ ha)
    cases dryRun with
    | true => exact ⟨trivial, fun _ => hrest _⟩
    | false => exact Program.Makes.bind (concerns_process stats (h a List.mem_cons_self)) hrest

/-- A run has to do with the store for the sake of the alerts that it fetches. -/
theorem Paging.concerns {source : Source} {stats : ImportStats} {r : FetchRequest} {ts : List ImportTurn}
    {res : ImportStats × Option ImportError} (h : Paging source dryRun stats r ts res) :
    ∀ t ∈ ts, t.call.Concerns (fetchedAlerts ts) := by
  intro t ht
  have hmakes : (processAll dryRun (stats.fetched (fetchedAlerts ts).length) (fetchedAlerts ts)).Makes
      (ImportCall.Concerns (fetchedAlerts ts)) := concerns_processAll _ fun a ha => ha
  obtain ⟨c, reply⟩ := t
  cases c with
  | store c => exact hmakes.of_leads h.ends_work _ (List.mem_filter.mpr ⟨ht, rfl⟩)
  | _ => trivial

/-! ## What is persisted -/

/-- After a run on a store that performs every call, the identities on record are those that were and those
of the alerts fetched. -/
theorem exists_keys_of_run {source : Source} {stats : ImportStats} {r : FetchRequest} {l : Ledger}
    {s' : Store} {ids : List Uuid} (run : Program.Run (backfill source false stats r))
    (hs : Serves Performs l.store run.turns s') (hfresh : l.Fresh (drawnIds run.turns ++ ids)) :
    ∃ m : Ledger, s' = m.store ∧ m.Fresh ids ∧
      ∀ key, key ∈ m.keys ↔ key ∈ l.keys ∨ ∃ a ∈ fetchedAlerts run.turns, a.key = key := by
  obtain ⟨m, xs, rfl, htaken, hids⟩ := takenIn_run run hs hfresh.of_append
  rw [hids] at hfresh
  refine ⟨m, rfl, htaken.fresh hfresh, fun key => ?_⟩
  rw [htaken.keys, mem_knownAfter_iff]

end Importer

/-! ## Runs for teams -/

namespace World

variable {τ ω : Type} (w : World ω) (c : ProviderClient) (send : Transport τ) (dryRun : Bool)
  (stats : ImportStats) (r : FetchRequest) (teamIds : List String) (x : τ) (y : ω)

/-- A run for the alerts of some teams, with what is sent and received put on record. -/
def teamRun : Program.Run (Importer.backfill c.source dryRun stats { r with teamIds }) :=
  Program.runOf (w.handler (.ofClient c send.recorded)) _ ((x, []), y)

/-- The requests that are sent in such a run, with the replies. -/
def teamExchanges : List Exchange :=
  ((Importer.backfill c.source dryRun stats { r with teamIds }).run
    (w.handler (.ofClient c send.recorded)) ((x, []), y)).2.1.2

end World

section

variable {τ : Type} (baseUrl : String) (headers : List (String × String)) (send : Transport τ)
  (r : FetchRequest) (x : τ)

/-- The trip for some teams is over the pages of the trip for others, and brings what the replies on it hold
for its own. -/
theorem tripOf_teams (teamIds : List String) :
    let p := Provider.ofClient ⟨.opsGenie, baseUrl, headers⟩ send.recorded
    let t := p.tripOf { r with teamIds } (x, [])
    t.failure = (p.tripOf r (x, [])).failure ∧ t.after = (p.tripOf r (x, [])).after ∧
      t.alerts = (wanted teamIds (Source.opsGenie.reportsIn t.after.2)).map (·.alert .opsGenie) := by
  intro p t
  obtain ⟨hfailure, hafter⟩ := (ignoresTeams_ofClient baseUrl headers send.recorded).trip teamIds
    { r with limit := r.effectiveLimit } r.effectiveLimit_ne_zero (x, [])
  obtain ⟨xs, hrecord, halerts⟩ := brings_trip baseUrl headers send
    { r with teamIds, limit := r.effectiveLimit } r.effectiveLimit_ne_zero (x, [])
  refine ⟨hfailure, hafter, ?_⟩
  rw [show t.after.2 = xs from hrecord]
  exact halerts

/-- A run at the service sends and receives what any run over the same window does, and takes in what is in
the replies for its teams. -/
theorem exists_teamExchanges :
    let c : ProviderClient := ⟨.opsGenie, baseUrl, headers⟩
    ∃ (xs : List Exchange) (failure : Option ImportError),
      ∀ {ω : Type} (w : World ω) (dryRun : Bool) (stats : ImportStats) (teamIds : List String) (y : ω),
        let run := w.teamRun c send dryRun stats r teamIds x y
        w.teamExchanges c send dryRun stats r teamIds x y = xs ∧ run.result.2 = failure ∧
        fetchedAlerts run.turns =
          (wanted teamIds (Source.opsGenie.reportsIn xs)).map (·.alert .opsGenie) := by
  intro c
  let trip := (Provider.ofClient c send.recorded).tripOf r (x, [])
  refine ⟨trip.after.2, trip.failure, fun {ω} w dryRun stats teamIds y => ?_⟩
  intro run
  obtain ⟨hfailure, hafter, halerts⟩ := tripOf_teams baseUrl headers send r x teamIds
  have hfollows := w.follows_trip (.ofClient c send.recorded) .opsGenie dryRun stats
    { r with teamIds } (x, []) y
  refine ⟨?_, hfollows.failure.trans hfailure, ?_⟩
  · exact congrArg Prod.snd (hfollows.after.trans hafter)
  · rw [hafter] at halerts
    rw [(Importer.ends_backfill_iff.mp run.ends).fetchedAlerts_eq]
    exact (congrArg (·.flatMap alertsIn) hfollows.answers).trans halerts

end

/-- At a service that leaves it to its clients to filter by team, whatever it replies: any runs of a client over
the same window send the same requests and end with the same error or none, whatever teams they are for. A
run takes in the alerts of those reports received that name one of its teams, or of all reports if it is for
no teams in particular, in order; their number is counted as fetched, and what reaches the store concerns one
of them. A run for some teams and then one for others, on a store that performs every call, persist the
identities that a run for both persists, if the ids drawn are new. -/
theorem teams_filtered {τ : Type} (baseUrl : String) (headers : List (String × String))
    (send : Transport τ) (r : FetchRequest) (x : τ) :
    let c : ProviderClient := ⟨.opsGenie, baseUrl, headers⟩
    (∃ (xs : List Exchange) (failure : Option ImportError),
      ∀ {ω : Type} (w : World ω) (dryRun : Bool) (stats : ImportStats) (teamIds : List String) (y : ω),
        let run := w.teamRun c send dryRun stats r teamIds x y
        let kept := (wanted teamIds (Source.opsGenie.reportsIn xs)).map (·.alert .opsGenie)
        w.teamExchanges c send dryRun stats r teamIds x y = xs ∧ run.result.2 = failure ∧
        fetchedAlerts run.turns = kept ∧
        run.result.1.totalFetched = stats.totalFetched + kept.length ∧
        Importer.TakingAll dryRun (stats.fetched kept.length) kept (work run.turns) run.result.1 ∧
        ∀ t : ImportTurn, t ∈ run.turns → t.call.Concerns kept) ∧
    ∀ {ω₁ ω₂ ω₃ : Type} (w₁ : World ω₁) (w₂ : World ω₂) (w₃ : World ω₃) (y₁ : ω₁) (y₂ : ω₂) (y₃ : ω₃)
      (stats₁ stats₂ stats₃ : ImportStats) (ids₁ ids₂ : List String) (s s₁ s₂ s₃ : Store),
      let first := w₁.teamRun c send false stats₁ r ids₁ x y₁
      let second := w₂.teamRun c send false stats₂ r ids₂ x y₂
      let both := w₃.teamRun c send false stats₃ r (ids₁ ++ ids₂) x y₃
      s.Reachable → ids₁ ≠ [] → ids₂ ≠ [] →
      Serves Performs s first.turns s₁ → Serves Performs s₁ second.turns s₂ →
      s.Fresh (drawnIds first.turns ++ drawnIds second.turns) →
      Serves Performs s both.turns s₃ → s.Fresh (drawnIds both.turns) →
      ∀ key, s₂.hasKey key = s₃.hasKey key := by
  intro c
  obtain ⟨xs, failure, hruns⟩ := exists_teamExchanges baseUrl headers send r x
  refine ⟨⟨xs, failure, fun w dryRun stats teamIds y => ?_⟩, ?_⟩
  · intro run kept
    obtain ⟨hexchanges, hfailure, hfetched⟩ := hruns w dryRun stats teamIds y
    have hpaging := Importer.ends_backfill_iff.mp run.ends
    have htotal := hpaging.walking.totalFetched_eq
    have hwork := hpaging.takingAll
    have hconcerns := hpaging.concerns
    rw [hfetched] at htotal hwork hconcerns
    exact ⟨hexchanges, hfailure, hfetched, htotal, hwork, hconcerns⟩
  · intro ω₁ ω₂ ω₃ w₁ w₂ w₃ y₁ y₂ y₃ stats₁ stats₂ stats₃ ids₁ ids₂ s s₁ s₂ s₃ first second both
      hreachable h₁ h₂ hfirst hsecond hfresh hboth hfresh' key
    obtain ⟨-, -, hfetched₁⟩ := hruns w₁ false stats₁ ids₁ y₁
    obtain ⟨-, -, hfetched₂⟩ := hruns w₂ false stats₂ ids₂ y₂
    obtain ⟨-, -, hfetched₃⟩ := hruns w₃ false stats₃ (ids₁ ++ ids₂) y₃
    obtain ⟨l, rfl⟩ := hreachable.exists_ledger
    obtain ⟨l₁, rfl, hfresh₁, hkeys₁⟩ := Importer.exists_keys_of_run first hfirst hfresh.ledger
    rw [← List.append_nil (drawnIds _)] at hfresh₁ hfresh'
    obtain ⟨l₂, rfl, -, hkeys₂⟩ := Importer.exists_keys_of_run second hsecond hfresh₁
    obtain ⟨l₃, rfl, -, hkeys₃⟩ := Importer.exists_keys_of_run both hboth hfresh'.ledger
    rw [Ledger.hasKey_store, Ledger.hasKey_store]
    refine decide_eq_decide.mpr ?_
    rw [hkeys₂, hkeys₁, hkeys₃, hfetched₁, hfetched₂, hfetched₃, or_assoc]
    simp only [List.mem_map, exists_exists_and_eq_and, mem_wanted_append h₁ h₂, or_and_right, exists_or]

namespace Sample

/-- In a world that keeps a store, the store performs every call. -/
theorem serves_world {π α : Type} (p : Provider π) (importer : Importer α) (x : π) (y : Store × ℕ) :
    Serves Performs y.1 (importer.turns (world.handler p) (x, y))
      (importer.run (world.handler p) (x, y)).2.2.1 := by
  induction importer generalizing x y with
  | done a => rfl
  | call c next ih =>
    cases c with
    | store c => exact ⟨_, rfl, ih _ x ((y.1.perform c).2, y.2)⟩
    | ask q => exact ih _ (p.answer q x).2.2 y
    | pause => exact ih () x y
    | now => exact ih _ x y
    | newId => exact ih _ x (y.1, y.2 + 1)
    | note e => exact ih () x y

def teamText (id : String) : String :=
  "\x7b\"id\":\"" ++ id ++ "\"\x7d"

/-- An alert with some teams. -/
def reportText (number : String) (teamIds : List String) : String :=
  "\x7b\"id\":\"" ++ number ++ "\",\"createdAt\":\"1970-01-01T00:00:00Z\",\"teams\":[" ++
    ",".intercalate (teamIds.map teamText) ++ "]\x7d"

/-- Two pages: on the first, one alert each for two teams and one for none, and on the second one for both. -/
def teamReplies : ℕ → HttpReply
  | 0 => .answer 200 (some (Text.Utf8.encode
      ("\x7b\"data\":[" ++ reportText "A" ["x"] ++ "," ++ reportText "B" ["y"] ++ "," ++
        reportText "C" [] ++ "],\"paging\":\x7b\"next\":\"2\"\x7d\x7d").toList))
  | _ => .answer 200 (some (Text.Utf8.encode
      ("\x7b\"data\":[" ++ reportText "D" ["y", "x"] ++ "]\x7d").toList))

/-- A run over the two pages, and the world after it. -/
def teamRunOf (teamIds : List String) (y : Store × ℕ) :
    Program.Run (Importer.backfill .opsGenie false .zero { request with teamIds }) :=
  world.teamRun ⟨.opsGenie, "http://[::1]", []⟩ (.script teamReplies) false .zero request teamIds 0 y

/-- What such a run ends with, and what it leaves. -/
def teamOutcome (teamIds : List String) (y : Store × ℕ) :
    (ImportStats × Option ImportError) × (ℕ × List Exchange) × Store × ℕ :=
  (Importer.backfill .opsGenie false .zero { request with teamIds }).run
    (world.handler (.ofClient ⟨.opsGenie, "http://[::1]", []⟩ (Transport.script teamReplies).recorded))
    ((0, []), y)

theorem serves_teamRunOf (teamIds : List String) (y : Store × ℕ) :
    Serves Performs y.1 (teamRunOf teamIds y).turns (teamOutcome teamIds y).2.2.1 := by
  unfold teamOutcome
  exact serves_world _ _ _ _

/-- The two teams one after the other, and both at once. -/
def firstRun := teamRunOf ["x"] (store, 0)

def secondRun := teamRunOf ["y"] (teamOutcome ["x"] (store, 0)).2.2

def bothRun := teamRunOf ["x", "y"] (store, 0)

/-- What the runs fetch, and the ids that they draw. -/
theorem teamRuns_eq :
    ((fetchedAlerts firstRun.turns).map (·.externalId) = ["A", "D"] ∧
      (fetchedAlerts secondRun.turns).map (·.externalId) = ["B", "D"]) ∧
    drawnIds firstRun.turns ++ drawnIds secondRun.turns = [id 0, id 1, id 2, id 3, id 4, id 5] ∧
    drawnIds bothRun.turns = [id 0, id 1, id 2, id 3, id 4, id 5] := by
  decide +kernel

theorem fresh_teamRuns : store.Fresh (drawnIds firstRun.turns ++ drawnIds secondRun.turns) ∧
    store.Fresh (drawnIds bothRun.turns) := by
  obtain ⟨-, hids, hboth⟩ := teamRuns_eq
  rw [hids, hboth, and_self]
  constructor <;> decide +kernel

end Sample

/-- One team has the first and the last of four alerts, and the other the second and the last. -/
theorem teams_filtered_of_two :
    (fetchedAlerts Sample.firstRun.turns).map (·.externalId) = ["A", "D"] ∧
    (fetchedAlerts Sample.secondRun.turns).map (·.externalId) = ["B", "D"] ∧
    ∃ s₁ s₂ s₃, Serves Performs Sample.store Sample.firstRun.turns s₁ ∧
      Serves Performs s₁ Sample.secondRun.turns s₂ ∧
      Serves Performs Sample.store Sample.bothRun.turns s₃ ∧ ∀ key, s₂.hasKey key = s₃.hasKey key := by
  obtain ⟨⟨halerts, halerts'⟩, -⟩ := Sample.teamRuns_eq
  obtain ⟨-, hunion⟩ :=
    teams_filtered "http://[::1]" [] (.script Sample.teamReplies) Sample.request 0
  have hfirst := Sample.serves_teamRunOf ["x"] (Sample.store, 0)
  have hsecond := Sample.serves_teamRunOf ["y"] (Sample.teamOutcome ["x"] (Sample.store, 0)).2.2
  have hboth := Sample.serves_teamRunOf ["x", "y"] (Sample.store, 0)
  refine ⟨halerts, halerts', _, _, _, hfirst, hsecond, hboth, ?_⟩
  exact hunion Sample.world Sample.world Sample.world _ _ _ .zero .zero .zero ["x"] ["y"] _ _ _ _
    Sample.reachable_store (List.cons_ne_nil _ _) (List.cons_ne_nil _ _) hfirst hsecond
    Sample.fresh_teamRuns.1 hboth Sample.fresh_teamRuns.2

end OutageLedger
