import OutageLedger.Proofs.Command.Preparation
import OutageLedger.Proofs.Import.Outcome
import OutageLedger.Proofs.Import.Preview

/-
  What the command does in its modes. Main statements: `execute_withDatabase`, the database is opened first, and
  nothing follows if that fails; `not_isOnDisk_perform`, a mode that does not write leaves the database alone; and
  `exists_backfills`, a backfill goes the way of the trip to the service and prints its numbers last, and the trip
  alone decides whether it succeeds (`Execution.Backfills`).
-/

namespace OutageLedger

open Command

/-! ## Importers -/

namespace Importer

variable {source : Source} {dryRun : Bool} {stats stats' : ImportStats} {r : FetchRequest} {a : Alert}
  {as : List Alert} {ts : List ImportTurn}

theorem not_stored_backfill {res : ImportStats × Option ImportError}
    (h : (backfill source true stats r).Ends ts res) : ∀ t ∈ ts, t.isStored = false := by
  intro t ht
  refine Bool.eq_false_iff.mpr fun hstored => ?_
  have htaking := (ends_backfill_iff.mp h).takingAll
  have hnone := htaking.not_stored t (mem_work_of_isStored ht hstored)
  rw [hstored] at hnone
  cases hnone

theorem not_stored_listTeams {res : Except ProviderError (List Team)}
    (h : (listTeams source).Ends ts res) : ∀ t ∈ ts, t.isStored = false := by
  have hmakes : (listTeams source).Makes fun c => ∀ reply, ImportTurn.isStored ⟨c, reply⟩ = false := by
    refine ⟨fun _ => rfl, fun _ => ⟨fun _ => rfl, fun answer => ?_⟩⟩
    cases answer with
    | error e => exact trivial
    | ok teams => exact ⟨fun _ => rfl, fun _ => trivial⟩
  exact fun t ht => hmakes.of_leads h t ht t.reply

/-- How many records the store has taken. -/
def accepted (ts : List ImportTurn) : Nat :=
  (attachments ts).countP (·.2.isOk)

theorem accepted_append (ts us : List ImportTurn) : accepted (ts ++ us) = accepted ts + accepted us := by
  unfold accepted attachments
  rw [List.filterMap_append, List.countP_append]

/-- No records are added to fetch alerts. -/
theorem accepted_work (ts : List ImportTurn) : accepted (work ts) = accepted ts := by
  unfold accepted attachments work
  rw [List.filterMap_filter]
  congr 2
  funext ⟨c, answer⟩
  cases c with
  | note e => exact ite_self none
  | _ => rfl

/-- A run over pages ends without an error exactly if every page arrives. -/
theorem Paging.eq_none_iff {res : ImportStats × Option ImportError} (h : Paging source dryRun stats r ts res) :
    res.2 = none ↔ ∀ answer ∈ pageAnswers ts, ∃ page, answer = .ok page := by
  rw [← Option.not_isSome_iff_eq_none, h.failed_iff]
  constructor
  · intro hnone answer hanswer
    cases answer with
    | ok page => exact ⟨page, rfl⟩
    | error e => exact absurd ⟨e, hanswer⟩ hnone
  · rintro hall ⟨e, he⟩
    obtain ⟨page, hpage⟩ := hall _ he
    cases hpage

/-- An alert is added exactly if the store takes its record. -/
theorem Ingesting.ingestedBy_eq {res : Except IngestError (Option Created)} (h : Ingesting a ts res) :
    ingestedBy res = accepted ts := by
  cases h with
  | unknown e => rfl
  | known r => rfl
  | @created ts made h =>
    cases h with
    | unopened u time e => rfl
    | @opened u time us _ h =>
      obtain ⟨-, x, r, hattachments, hcases⟩ := h.calls
      show ingestedBy (made.map some) = (attachments us).countP (·.2.isOk)
      rw [hattachments]
      rcases hcases with ⟨rfl, -, c, rfl⟩ | ⟨e, rfl, -, -, rfl⟩ | ⟨e, b, rfl, -, -, rfl⟩ |
        ⟨e, c, rfl, -, -, rfl⟩ <;> rfl

theorem TakingAll.newAlerts_eq (h : TakingAll false stats as ts stats') :
    stats'.newAlerts = stats.newAlerts + accepted ts := by
  induction h with
  | nil stats => rfl
  | @cons stats mid stats' a as us vs hone _ ih =>
    cases hone with
    | @processed _ us res h =>
      rw [ih, newAlerts_count, h.ingestedBy_eq, accepted_append, accepted_append]
      show _ = stats.newAlerts + (accepted us + 0 + accepted vs)
      omega

end Importer

/-- What is not with the store has no effect on the database. -/
theorem CommandEffect.not_isOnDisk_of_not_stored (client : ProviderClient) {ts : List ImportTurn}
    (h : ∀ t ∈ ts, t.isStored = false) : ∀ e ∈ ts.filterMap (ofImportTurn? client), e.isOnDisk = false := by
  intro e he
  obtain ⟨⟨c, answer⟩, ht, heffect⟩ := List.mem_filterMap.mp he
  cases c with
  | ask q =>
    obtain ⟨request, -, rfl⟩ := Option.map_eq_some_iff.mp heffect
    rfl
  | store c => cases h _ ht
  | _ => cases heffect

/-! ## Modes -/

/-- Only a mode that writes opens the database. -/
def Mode.opensDatabase : Mode → Bool
  | .listTeams => false
  | .live .. => true
  | .backfill _ dryRun => !dryRun

theorem Command.exists_perform_eq (filter : LogFilter) (client : ProviderClient) {m : Mode}
    (h : m.opensDatabase = true) (database : String) :
    ∃ next, perform filter client database m = withDatabase database next := by
  cases m with
  | listTeams => cases h
  | live id outage => exact ⟨_, rfl⟩
  | backfill request dryRun =>
    cases dryRun with
    | true => cases h
    | false => exact ⟨_, rfl⟩

namespace Surroundings

variable {δ κ τ α : Type} (w : Surroundings δ κ τ) (filter : LogFilter) (client : ProviderClient)

/-- Opening the database comes first, and nothing comes after it if it fails. -/
theorem execute_withDatabase (database : String) (next : Command (Except CommandError α)) (x : τ) (d : δ) (k : κ) :
    w.execute (withDatabase database next) (x, d, k) =
      (match (w.openStore database d).1 with
        | .error e => Execution.mk (Except.error (CommandError.database database (.backend e)))
          (x, (w.openStore database d).2, k) []
        | .ok () => w.execute next (x, (w.openStore database d).2, k)).after [.opened database] := by
  show (w.execute (match (w.openStore database d).1 with
    | .error e => pure (.error (.database database (.backend e)))
    | .ok () => next) (x, (w.openStore database d).2, k)).after [.opened database] = _
  cases (w.openStore database d).1 <;> rfl

theorem not_isOnDisk_listTeams (s : τ × δ × κ) :
    ∀ e ∈ (w.execute (listTeams filter client) s).effects, e.isOnDisk = false := by
  have hends := Program.ends_turns (w.world.handler (w.service client)) (Importer.listTeams client.source) s
  have hteams := CommandEffect.not_isOnDisk_of_not_stored client (Importer.not_stored_listTeams hends)
  unfold listTeams
  rw [execute_ofImporter_bind]
  refine List.forall_mem_append.mpr ⟨hteams, ?_⟩
  cases ((Importer.listTeams client.source).run (w.world.handler (w.service client)) s).1 with
  | error e => exact fun _ h => absurd h List.not_mem_nil
  | ok teams => exact List.forall_mem_singleton.mpr rfl

/-- The numbers are printed last, whatever the importer ends with. -/
theorem execute_backfill {request : FetchRequest} {dryRun : Bool} {s s' : τ × δ × κ} {stats : ImportStats}
    {e : Option ImportError}
    (h : (Importer.backfill client.source dryRun .zero request).run (w.world.handler (w.service client)) s =
      ((stats, e), s')) :
    w.execute (backfill filter client request dryRun) s =
      ⟨e.elim (.ok ()) fun e => .error (.backfill e), s',
        ((Importer.backfill client.source dryRun .zero request).turns (w.world.handler (w.service client))
            s).filterMap (CommandEffect.ofImportTurn? client) ++
          [.printed s!"{heading dryRun e.isSome}\n{stats.summary}\n"]⟩ := by
  unfold backfill
  rw [w.execute_bind_of_quiet (isQuiet_note filter _), execute_ofImporter_bind, h]
  cases e <;> rfl

/-- A mode that does not write leaves the database alone. -/
theorem not_isOnDisk_perform {m : Mode} (h : m.opensDatabase = false) (database : String) (s : τ × δ × κ) :
    ∀ e ∈ (w.execute (perform filter client database m) s).effects, e.isOnDisk = false := by
  cases m with
  | listTeams => exact w.not_isOnDisk_listTeams filter client s
  | live id outage => cases h
  | backfill request dryRun =>
    cases dryRun with
    | false => cases h
    | true =>
      have hends := Program.ends_turns (w.world.handler (w.service client))
        (Importer.backfill client.source true .zero request) s
      show ∀ e ∈ (w.execute (backfill filter client request true) s).effects, e.isOnDisk = false
      rw [w.execute_backfill filter client rfl]
      exact List.forall_mem_append.mpr
        ⟨CommandEffect.not_isOnDisk_of_not_stored client (Importer.not_stored_backfill hends),
          List.forall_mem_singleton.mpr rfl⟩

end Surroundings

theorem ExitStatus.code_eq_zero_iff {status : ExitStatus} : status.code = 0 ↔ status = .success := by
  cases status <;> decide

/-! ## Backfills -/

/-- A backfill that has got to its work, as it shows outside after what came before. It goes the way of a trip to the
service; `ts` are the turns of its importer, and `stats` its numbers. -/
structure Execution.Backfills {σ τ : Type} (run : Execution σ ExitStatus) (client : ProviderClient) (dryRun : Bool)
    (trip : Trip τ) (before : List CommandEffect) (ts : List ImportTurn) (stats : ImportStats) : Prop where
  /-- The heading and the numbers are printed, and they are printed last. -/
  effects : run.effects = before ++ (ts.filterMap (CommandEffect.ofImportTurn? client) ++
    [.printed s!"{heading dryRun trip.failure.isSome}\n{stats.summary}\n"])
  /-- What is asked for are the pages of the trip. -/
  queries : queries ts = trip.requests.map .page
  /-- The numbers are those of taking in the alerts of these pages, with the replies of the database. -/
  taken : Importer.TakingAll dryRun (ImportStats.zero.fetched trip.alerts.length) trip.alerts (work ts) stats
  totalFetched : stats.totalFetched = trip.alerts.length
  counted : stats.newAlerts + stats.skipped + stats.errors = stats.totalFetched
  newOutages : stats.newOutages = stats.newAlerts
  newAlerts : stats.newAlerts = if dryRun then trip.alerts.length else Importer.accepted ts
  /-- Only the pages decide whether the run succeeds. -/
  code : run.result.code = 0 ↔ ∀ answer ∈ trip.answers, ∃ page, answer = .ok page

/-- A run over pages that goes the way of the trip, with its numbers printed after it, is such a backfill. -/
theorem Importer.Paging.backfills {σ τ : Type} {source : Source} {dryRun : Bool} {r : FetchRequest}
    {ts : List ImportTurn} {stats : ImportStats} {e : Option ImportError} {trip : Trip τ}
    (h : Paging source dryRun .zero r ts (stats, e)) (hrequests : pageRequests ts = trip.requests)
    (hanswers : pageAnswers ts = trip.answers) (hfailure : e = trip.failure) (client : ProviderClient)
    (before : List CommandEffect) (s : σ) :
    (Execution.mk (e.elim (.ok ()) fun e => .error (.backfill e)) s
      (before ++ (ts.filterMap (CommandEffect.ofImportTurn? client) ++
        [.printed s!"{heading dryRun e.isSome}\n{stats.summary}\n"]))).reported.Backfills
          client dryRun trip before ts stats := by
  have halerts : fetchedAlerts ts = trip.alerts :=
    h.fetchedAlerts_eq.trans (congrArg (List.flatMap alertsIn) hanswers)
  have htaking := h.takingAll
  rw [halerts] at htaking
  have htotal : stats.totalFetched = 0 + trip.alerts.length := htaking.totalFetched_eq
  have hcounted : stats.newAlerts + stats.skipped + stats.errors = 0 + 0 + 0 + trip.alerts.length :=
    htaking.counted_eq
  have hnew : stats.newAlerts = 0 + if dryRun then trip.alerts.length else accepted (work ts) := by
    cases dryRun with
    | true => exact congrArg ImportStats.newAlerts htaking.eq_previewed
    | false => exact htaking.newAlerts_eq
  rw [Nat.zero_add, accepted_work] at hnew
  exact {
    effects := hfailure ▸ rfl
    queries := by rw [h.queries_eq, hrequests]
    taken := htaking
    totalFetched := by omega
    counted := by omega
    newOutages := htaking.newOutages_add
    newAlerts := hnew
    code := by
      rw [ExitStatus.code_eq_zero_iff, ← hanswers, ← h.eq_none_iff]
      cases e <;> simp [Execution.reported] }

/-- The trip is one to the service alone: the database has no part in it. -/
theorem Surroundings.exists_backfills {δ κ τ : Type} (w : Surroundings δ κ τ) (filter : LogFilter)
    (client : ProviderClient) (request : FetchRequest) (dryRun : Bool) (before : List CommandEffect) (x : τ)
    (y : δ × κ) :
    ∃ ts stats, ((w.execute (backfill filter client request dryRun) (x, y)).after before).reported.Backfills client
      dryRun ((w.service client).tripOf request x) before ts stats := by
  have htrip := w.world.follows_trip (w.service client) client.source dryRun .zero request x y
  have hends := Program.ends_turns (w.world.handler (w.service client))
    (Importer.backfill client.source dryRun .zero request) (x, y)
  have hpaging := Importer.ends_backfill_iff.mp hends
  rw [w.execute_backfill filter client rfl]
  exact ⟨_, _, hpaging.backfills htrip.requests htrip.answers htrip.failure client before _⟩

end OutageLedger
