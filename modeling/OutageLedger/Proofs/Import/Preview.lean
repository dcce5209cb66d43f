import OutageLedger.Proofs.Import.Itinerary
import OutageLedger.Proofs.Import.Tally

/-
  Dry runs. A dry run goes the way over the pages that a real one goes, whatever the store of the real one
  holds and replies, since both go the way of the trip (`World.follows_trip`); it asks nothing of a store, and
  counts as new each alert that is fetched. A real run counts as new those that it neither skips nor fails to
  take in (`TakingAll.skipped_le`, `TakingAll.errors_le`). Main statement: `dry_run_previews`.
-/

namespace OutageLedger

/-- What is asked of the service, in order. -/
def queries (ts : List ImportTurn) : List ProviderQuery :=
  ts.filterMap fun t => match t.call with
    | .ask q => some q
    | _ => none

/-- The turn is one with the store. -/
def ImportTurn.isStored : ImportTurn → Bool
  | ⟨.store _, _⟩ => true
  | _ => false

namespace Importer

variable {source : Source} {dryRun : Bool} {stats stats' : ImportStats} {r : FetchRequest}
  {as : List Alert} {ts us : List ImportTurn} {res : ImportStats × Option ImportError}

/-! ## Questions -/

theorem queries_append (ts us : List ImportTurn) : queries (ts ++ us) = queries ts ++ queries us :=
  List.filterMap_append

theorem queries_of_not_asked (h : ∀ t ∈ ts, t.isAsked = false) : queries ts = [] := by
  refine List.filterMap_eq_nil_iff.mpr fun t ht => ?_
  obtain ⟨c, reply⟩ := t
  cases c with
  | ask q => exact absurd (h _ ht) (by simp [ImportTurn.isAsked])
  | _ => rfl

/-- A run asks for pages, and nothing else. -/
theorem Paging.queries_eq (h : Paging source dryRun stats r ts res) :
    queries ts = (pageRequests ts).map .page := by
  induction h with
  | failed stats r e => rfl
  | @stopped stats stats' r page ts notes hall hstop =>
    have hquiet := not_asked_of_quiet hstop.quiet
    rw [pageRequests_page (not_asked_processAll hall), pageRequests_of_not_asked hquiet]
    show .page r :: queries (ts ++ notes) = _
    rw [queries_append, queries_of_not_asked (not_asked_processAll hall), queries_of_not_asked hquiet]
    rfl
  | @next stats stats' r next page ts us res hall hmore hnext _ ih =>
    have hpause : pageRequests (⟨.pause, ()⟩ :: us) = pageRequests us := rfl
    rw [pageRequests_page (not_asked_processAll hall), hpause, List.map_cons, ← ih]
    show .page r :: queries (ts ++ ⟨.pause, ()⟩ :: us) = _
    rw [queries_append, queries_of_not_asked (not_asked_processAll hall)]
    rfl

/-! ## Numbers -/

theorem TakingAll.skipped_le (h : TakingAll dryRun stats as ts stats') :
    stats.skipped ≤ stats'.skipped := by
  induction h with
  | nil stats => exact Nat.le_refl _
  | cons hone _ ih =>
    refine Nat.le_trans ?_ ih
    cases hone with
    | previewed stats => exact Nat.le_refl _
    | @processed stats ts res h =>
      cases res with
      | ok c =>
        cases c with
        | none => exact Nat.le_succ _
        | some c => exact Nat.le_refl _
      | error e =>
        cases e with
        | duplicate key => exact Nat.le_succ _
        | _ => exact Nat.le_refl _

theorem TakingAll.errors_le (h : TakingAll dryRun stats as ts stats') : stats.errors ≤ stats'.errors := by
  induction h with
  | nil stats => exact Nat.le_refl _
  | cons hone _ ih =>
    refine Nat.le_trans ?_ ih
    cases hone with
    | previewed stats => exact Nat.le_refl _
    | @processed stats ts res h =>
      cases res with
      | ok c => cases c <;> exact Nat.le_refl _
      | error e =>
        cases e with
        | duplicate key => exact Nat.le_refl _
        | _ => exact Nat.le_succ _

/-! ## No store -/

/-- Alerts that are only counted are not looked up, and not added. -/
theorem TakingAll.not_stored (h : TakingAll true stats as ts stats') :
    ∀ t ∈ ts, t.isStored = false := by
  induction h with
  | nil stats => exact fun _ h => absurd h List.not_mem_nil
  | cons hone _ ih =>
    cases hone with
    | previewed stats => exact List.forall_mem_cons.mpr ⟨rfl, ih⟩

/-- What is done to fetch alerts is nothing with the store. -/
theorem mem_work_of_isStored {t : ImportTurn} (ht : t ∈ ts) (h : t.isStored = true) : t ∈ work ts := by
  refine List.mem_filter.mpr ⟨ht, ?_⟩
  obtain ⟨c, reply⟩ := t
  cases c with
  | store c => rfl
  | _ => cases h

end Importer

/-! ## Two runs -/

/-- A dry run in any world does to the service what a real run does, whatever the world and the store of the
real one are: it asks for the same pages and is given the same answers, with the same pauses between them; it
ends with the same error or none, and has fetched as many alerts. It asks nothing of a store. All alerts
fetched are counted as new, and none as skipped or as an error; so that a real run counts at most as many as
new, and as many exactly if it has skipped no alert and failed with none. -/
theorem dry_run_previews {π ω ω' : Type} (p : Provider π) (w : World ω) (w' : World ω') (source : Source)
    (stats : ImportStats) (r : FetchRequest) (x : π) (y : ω) (y' : ω') :
    let dry := Program.runOf (w'.handler p) (Importer.backfill source true stats r) (x, y')
    let real := Program.runOf (w.handler p) (Importer.backfill source false stats r) (x, y)
    let n := (fetchedAlerts dry.turns).length
    (queries dry.turns = queries real.turns ∧ pageAnswers dry.turns = pageAnswers real.turns ∧
      fetchedAlerts dry.turns = fetchedAlerts real.turns ∧
      paces dry.turns = paces real.turns ∧ pauses dry.turns = pauses real.turns ∧
      dry.result.2 = real.result.2 ∧ dry.result.1.totalFetched = real.result.1.totalFetched) ∧
    (∀ t : ImportTurn, t ∈ dry.turns → t.isStored = false) ∧
    dry.result.1 = ⟨stats.totalFetched + n, stats.newOutages + n, stats.newAlerts + n, stats.skipped,
      stats.errors⟩ ∧
    real.result.1.newOutages ≤ dry.result.1.newOutages ∧
    real.result.1.newAlerts ≤ dry.result.1.newAlerts ∧
    (real.result.1.newOutages = dry.result.1.newOutages ↔
      real.result.1.skipped = stats.skipped ∧ real.result.1.errors = stats.errors) ∧
    (real.result.1.newAlerts = dry.result.1.newAlerts ↔
      real.result.1.skipped = stats.skipped ∧ real.result.1.errors = stats.errors) := by
  intro dry real n
  have hdry := Importer.ends_backfill_iff.mp dry.ends
  have hreal := Importer.ends_backfill_iff.mp real.ends
  have hdryTrip := w'.follows_trip p source true stats r x y'
  have hrealTrip := w.follows_trip p source false stats r x y
  have hrequests : pageRequests dry.turns = pageRequests real.turns :=
    hdryTrip.requests.trans hrealTrip.requests.symm
  have hanswers : pageAnswers dry.turns = pageAnswers real.turns :=
    hdryTrip.answers.trans hrealTrip.answers.symm
  have halerts : fetchedAlerts dry.turns = fetchedAlerts real.turns := by
    rw [hdry.fetchedAlerts_eq, hreal.fetchedAlerts_eq, hanswers]
  have hdryTaking := hdry.takingAll
  have hrealTaking := hreal.takingAll
  have hresult : dry.result.1 = ⟨stats.totalFetched + n, stats.newOutages + n, stats.newAlerts + n,
      stats.skipped, stats.errors⟩ := hdryTaking.eq_previewed
  have htotal : real.result.1.totalFetched = stats.totalFetched + n :=
    hrealTaking.totalFetched_eq.trans (congrArg (fun as : List Alert => stats.totalFetched + as.length) halerts.symm)
  have hcounted : real.result.1.newAlerts + real.result.1.skipped + real.result.1.errors =
      stats.newAlerts + stats.skipped + stats.errors + n :=
    hrealTaking.counted_eq.trans
      (congrArg (fun as : List Alert => stats.newAlerts + stats.skipped + stats.errors + as.length)
        halerts.symm)
  have hnew : real.result.1.newOutages + stats.newAlerts = real.result.1.newAlerts + stats.newOutages :=
    hrealTaking.newOutages_add
  have hskipped : stats.skipped ≤ real.result.1.skipped := hrealTaking.skipped_le
  have herrors : stats.errors ≤ real.result.1.errors := hrealTaking.errors_le
  refine ⟨⟨?_, hanswers, halerts, ?_, ?_, hdryTrip.failure.trans hrealTrip.failure.symm, ?_⟩, ?_, hresult,
    ?_⟩
  · rw [hdry.queries_eq, hreal.queries_eq, hrequests]
  · rw [hdry.paces_eq, hreal.paces_eq, hrequests]
  · have hdryPauses := hdry.pauses_add_one
    have hrealPauses := hreal.pauses_add_one
    rw [hrequests] at hdryPauses
    omega
  · rw [hresult, htotal]
  · intro t ht
    refine Bool.eq_false_iff.mpr fun hstored => ?_
    have hnone := hdryTaking.not_stored t (Importer.mem_work_of_isStored ht hstored)
    rw [hstored] at hnone
    cases hnone
  · rw [hresult]
    show _ ≤ stats.newOutages + n ∧ _ ≤ stats.newAlerts + n ∧ (_ = stats.newOutages + n ↔ _) ∧
      (_ = stats.newAlerts + n ↔ _)
    omega

end OutageLedger
