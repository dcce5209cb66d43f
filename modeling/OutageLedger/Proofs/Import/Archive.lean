import Mathlib.Algebra.Order.Floor.Div
import OutageLedger.Proofs.Import.Alike
import OutageLedger.Proofs.Import.Fetching

/-
  A service that pages through a fixed list of records. Whatever the limit of its requests, a run fetches
  the alerts of the records from its offset on, each once and in order, and ends when there are no more
  (`Paging.covers`).

  A run may also stop at a page for which nothing was read and at an offset out of range. Neither comes
  early: a page counts the records read and not those kept, so that one of which no record is kept does
  not stop the run (`isLast_page_iff`), and with at most 2^32 records an offset out of range is past the
  last of them. With more records the last ones could not be asked for.

  Main statement: `archive_imported`, which also compares two runs with different limits. They differ in
  the ids drawn and the times read. A time goes on record as it is read, and one whose year does not have
  four digits is not read back, so that an alert with the same identity is an error from then on. For this
  the numbers of two runs may differ (`numbers_differ_past_year_9999`), and for nothing else.
-/

namespace OutageLedger

/-- Records at a paging service, of which its client keeps some. -/
structure Archive (ρ : Type) where
  records : List ρ
  keeps : ρ → Bool
  alert : ρ → Alert

namespace Archive

variable {ρ : Type} (x : Archive ρ)

/-- The alerts of the records that are kept, from a place on. -/
def alertsFrom (place : Nat) : List Alert :=
  ((x.records.drop place).filter x.keeps).map x.alert

/-- The page for a request: as many records as it asks for, from its offset on, or those there are. -/
def page (r : FetchRequest) : AlertPage :=
  let read := (x.records.drop r.offset.toNat).take r.limit.toNat
  { alerts := (read.filter x.keeps).map x.alert
    hasMore := r.offset.toNat + r.limit.toNat < x.records.length
    scanned := read.length }

/-- All answers to requests for pages are the pages for them. -/
def Sends (ts : List ImportTurn) : Prop :=
  ∀ (q : FetchRequest) (answer : Except ProviderError AlertPage),
    (⟨.ask (.page q), answer⟩ : ImportTurn) ∈ ts → answer = .ok (x.page q)

/-- How many requests it takes to read a number of records. -/
def requestsFor (n limit : Nat) : Nat :=
  max 1 (n ⌈/⌉ limit)

/-! ## Pages -/

variable {x} {r : FetchRequest}

/-- A page is the last one exactly if it reaches the end of the records. -/
theorem isLast_page_iff (hlimit : r.limit ≠ 0) :
    (!(x.page r).hasMore || (x.page r).scanned = 0) = true ↔
      x.records.length ≤ r.offset.toNat + r.limit.toNat := by
  have hpos : r.limit.toNat ≠ 0 := fun h => hlimit (UInt32.toNat_inj.mp h)
  have hscanned : (x.page r).scanned = min r.limit.toNat (x.records.length - r.offset.toNat) := by
    show ((x.records.drop r.offset.toNat).take r.limit.toNat).length = _
    rw [List.length_take, List.length_drop]
  have hmore : (x.page r).hasMore = decide (r.offset.toNat + r.limit.toNat < x.records.length) := rfl
  rw [hscanned, hmore, Bool.or_eq_true, Bool.not_eq_true', decide_eq_false_iff_not, decide_eq_true_iff]
  omega

theorem alertsFrom_of_le {place : Nat} (h : x.records.length ≤ place) : x.alertsFrom place = [] := by
  unfold alertsFrom
  rw [List.drop_eq_nil_of_le h]
  rfl

/-- After the alerts of a page come those from the next offset on. -/
theorem alerts_page_append (x : Archive ρ) (r : FetchRequest) :
    (x.page r).alerts ++ x.alertsFrom (r.offset.toNat + r.limit.toNat) =
      x.alertsFrom r.offset.toNat := by
  unfold page alertsFrom
  rw [← List.map_append, ← List.filter_append, ← List.drop_drop, List.take_append_drop]

theorem requestsFor_of_le {n limit : Nat} (hpos : 0 < limit) (h : n ≤ limit) :
    requestsFor n limit = 1 := by
  have hone : n ⌈/⌉ limit ≤ 1 := (ceilDiv_le_iff_le_mul hpos).mpr (by omega)
  exact max_eq_left hone

theorem requestsFor_of_lt {n limit : Nat} (hpos : 0 < limit) (h : limit < n) :
    requestsFor n limit = requestsFor (n - limit) limit + 1 := by
  have hstep : n ⌈/⌉ limit = (n - limit) ⌈/⌉ limit + 1 := by
    rw [Nat.ceilDiv_eq_add_pred_div, Nat.ceilDiv_eq_add_pred_div, ← Nat.add_div_right _ hpos]
    congr 1
    omega
  have hmore : 1 ≤ (n - limit) ⌈/⌉ limit := by
    rw [Nat.ceilDiv_eq_add_pred_div, Nat.one_le_div_iff hpos]
    omega
  unfold requestsFor
  rw [hstep, max_eq_right hmore, max_eq_right (Nat.le_add_left 1 _)]

theorem Sends.page_eq {ts : List ImportTurn} {page : AlertPage}
    (h : x.Sends (⟨.ask (.page r), .ok page⟩ :: ts)) : page = x.page r :=
  Except.ok.inj (h r (.ok page) List.mem_cons_self)

end Archive

/-! ## Runs -/

namespace Importer

open Archive

variable {ρ : Type} {x : Archive ρ} {source : Source} {dryRun : Bool} {stats : ImportStats}
  {r : FetchRequest} {ts : List ImportTurn} {res : ImportStats × Option ImportError}

/-- A run does not end before all records have been read, and does not fail. -/
theorem Paging.covers (h : Paging source dryRun stats r ts res) (hsends : x.Sends ts)
    (hsize : x.records.length ≤ UInt32.size) (hlimit : r.limit ≠ 0) :
    res.2 = none ∧ fetchedAlerts ts = x.alertsFrom r.offset.toNat ∧
      (pageRequests ts).length =
        requestsFor (x.records.length - r.offset.toNat) r.limit.toNat := by
  induction h with
  | failed stats r e => cases hsends r (.error e) List.mem_cons_self
  | @stopped stats stats' r page ts notes hall hstop =>
    have hpos : 0 < r.limit.toNat := Nat.pos_of_ne_zero fun h => hlimit (UInt32.toNat_inj.mp h)
    have hquiet := not_asked_of_quiet hstop.quiet
    have hend : x.records.length ≤ r.offset.toNat + r.limit.toNat := by
      rw [hsends.page_eq] at hstop
      cases hstop with
      | lastPage hlast => exact (isLast_page_iff hlimit).mp hlast
      | outOfRange hmore hnone => exact hsize.trans (FetchRequest.next?_eq_none_iff.mp hnone)
    refine ⟨rfl, ?_, ?_⟩
    · rw [fetchedAlerts_page (not_asked_processAll hall), fetchedAlerts_of_not_asked hquiet,
        hsends.page_eq, ← alerts_page_append x r, alertsFrom_of_le hend]
    · rw [pageRequests_page (not_asked_processAll hall), pageRequests_of_not_asked hquiet,
        requestsFor_of_le hpos (by omega)]
      rfl
  | @next stats stats' r next page ts us res hall hmore hnext _ ih =>
    have hpos : 0 < r.limit.toNat := Nat.pos_of_ne_zero fun h => hlimit (UInt32.toNat_inj.mp h)
    have hsame : r.limit = next.limit := r.limit_next hnext
    have hoffset := r.toNat_offset_next hnext
    have hgoes : r.offset.toNat + r.limit.toNat < x.records.length := by
      rw [hsends.page_eq] at hmore
      exact Nat.lt_of_not_le fun hend =>
        Bool.false_ne_true (hmore.symm.trans ((isLast_page_iff hlimit).mpr hend))
    have hpage := hsends.page_eq
    have hrest : x.Sends us := fun q answer hmem =>
      hsends q answer (List.mem_cons_of_mem _ (List.mem_cons_of_mem _
        (List.mem_append_right _ (List.mem_cons_of_mem _ hmem))))
    obtain ⟨hdone, halerts, hcount⟩ := ih hrest (hsame ▸ hlimit)
    have hpause : fetchedAlerts (⟨.pause, ()⟩ :: us) = fetchedAlerts us := rfl
    have hpause' : pageRequests (⟨.pause, ()⟩ :: us) = pageRequests us := rfl
    refine ⟨hdone, ?_, ?_⟩
    · rw [fetchedAlerts_page (not_asked_processAll hall), hpause, halerts, hoffset, hpage,
        alerts_page_append]
    · have hstep : requestsFor (x.records.length - r.offset.toNat) r.limit.toNat =
          requestsFor (x.records.length - r.offset.toNat - r.limit.toNat) r.limit.toNat + 1 :=
        requestsFor_of_lt hpos (by omega)
      rw [pageRequests_page (not_asked_processAll hall), hpause', List.length_cons, hcount, hoffset,
        ← hsame, hstep, Nat.sub_add_eq]

end Importer

/-! ## Reports of a service -/

namespace Archive

/-- The reports of a service, of which its client keeps those of some teams where it filters. -/
def ofReports (source : Source) (teamIds : List String) (reports : List Report) : Archive Report where
  records := reports
  keeps p := !source.filtersHere || p.matchesTeams teamIds
  alert p := p.alert source

/-- The page that a service sends of its reports. -/
def reportPage (reports : List Report) (r : FetchRequest) : ReportPage where
  reports := (reports.drop r.offset.toNat).take r.limit.toNat
  hasMore := r.offset.toNat + r.limit.toNat < reports.length

theorem alertPage_reportPage (source : Source) (reports : List Report) (r : FetchRequest) :
    (reportPage reports r).alertPage source r.teamIds = (ofReports source r.teamIds reports).page r := by
  unfold ReportPage.alertPage ofReports page
  cases source.filtersHere with
  | true => rfl
  | false =>
    have hall : ∀ ps : List Report, ps.filter (fun p => !false || p.matchesTeams r.teamIds) = ps :=
      fun ps => List.filter_eq_self.mpr fun _ _ => rfl
    simp only [hall]
    rfl

/-- A run asks for the same teams in all its requests, so that a service which sends its reports page by
page sends it the pages of an archive. -/
theorem sends_ofReports {σ : Type} {reports : List Report} {handler : Handler importing σ}
    {source : Source}
    (h : ∀ q y, (handler (.ask (.page q)) y).1 =
      .ok ((reportPage reports q).alertPage source q.teamIds)) (y : σ) (dryRun : Bool)
    (stats : ImportStats) (r : FetchRequest) :
    (ofReports source r.teamIds reports).Sends
      (Program.runOf handler (Importer.backfill source dryRun stats r) y).turns := by
  intro q answer hmem
  have hpaging := Importer.ends_backfill_iff.mp
    (Program.runOf handler (Importer.backfill source dryRun stats r) y).ends
  have hrequest : q ∈ pageRequests
      (Program.runOf handler (Importer.backfill source dryRun stats r) y).turns :=
    List.mem_filterMap.mpr ⟨_, hmem, rfl⟩
  obtain ⟨i, hi⟩ := List.mem_iff_getElem?.mp hrequest
  obtain ⟨-, hq⟩ := hpaging.request_eq hi
  have hteams : q.teamIds = r.teamIds := by
    rw [hq]
  obtain ⟨y', hy'⟩ := Program.mem_turns hmem
  rw [← hteams, ← alertPage_reportPage]
  exact hy'.trans (h q y')

end Archive

/-! ## Two runs over an archive -/

/-- A run over an archive of at most 2^32 records ends without an error. It takes in the alerts of the
records that are kept, from its offset on, each once and in order, and asks for as few pages as its limit
allows. Another run from the same store, with any other limit, adds the same alerts, each with an outage of
its own: but for the ids drawn and the times read off the clock, the two leave the same store. They count the
same numbers if the clock shows times that read back alike, and in any case as many alerts as fetched, as new,
and as skipped or errors together. -/
theorem archive_imported {ρ σ : Type} {x : Archive ρ} (hsize : x.records.length ≤ 2 ^ 32)
    (handler : Handler importing σ) (y : σ) (source : Source) (dryRun : Bool) (stats : ImportStats)
    (r : FetchRequest)
    (hsends : x.Sends (Program.runOf handler (Importer.backfill source dryRun stats r) y).turns) :
    let run := Program.runOf handler (Importer.backfill source dryRun stats r) y
    let as := x.alertsFrom r.offset.toNat
    run.result.2 = none ∧
    fetchedAlerts run.turns = as ∧
    Importer.TakingAll dryRun (stats.fetched as.length) as (work run.turns) run.result.1 ∧
    run.result.1.totalFetched = stats.totalFetched + as.length ∧
    (pageRequests run.turns).length =
      max 1 ((x.records.length - r.offset.toNat) ⌈/⌉ r.effectiveLimit.toNat) ∧
    ∀ {τ : Type} (handler' : Handler importing τ) (y' : τ) (r' : FetchRequest),
      let run' := Program.runOf handler' (Importer.backfill source dryRun stats r') y'
      x.Sends run'.turns → r'.offset = r.offset →
      ∀ s s₁ s₂ : Store, Store.Serves Store.Performs s run.turns s₁ →
        Store.Serves Store.Performs s run'.turns s₂ →
        s.Fresh (drawnIds run.turns) → s.Fresh (drawnIds run'.turns) →
        ∃ xs ys : List Addition, s.Gains s₁ run.turns xs ∧ s.Gains s₂ run'.turns ys ∧
          xs.map (·.alert) = ys.map (·.alert) ∧ run.result.1.Agree run'.result.1 ∧
          ((clockTimes run.turns).map (·.hasShortYear) = (clockTimes run'.turns).map (·.hasShortYear) →
            run.result.1 = run'.result.1) := by
  intro run as
  have hpaging := Importer.ends_backfill_iff.mp run.ends
  obtain ⟨hdone, halerts, hcount⟩ := hpaging.covers hsends hsize r.effectiveLimit_ne_zero
  have hwork := hpaging.takingAll
  have htotal := (Importer.ends_backfill run.ends).totalFetched_eq
  rw [halerts] at hwork htotal
  refine ⟨hdone, halerts, hwork, htotal, hcount, ?_⟩
  intro τ handler' y' r' run' hsends' hoffset s s₁ s₂ hs hs' hfresh hfresh'
  have hpaging' := Importer.ends_backfill_iff.mp run'.ends
  obtain ⟨-, halerts', -⟩ := hpaging'.covers hsends' hsize r'.effectiveLimit_ne_zero
  have hwork' := hpaging'.takingAll
  have hsame : x.alertsFrom r'.offset.toNat = as := by
    rw [hoffset]
  rw [halerts', hsame] at hwork'
  rw [← Store.serves_work_iff] at hs hs'
  rw [← drawnIds_work] at hfresh hfresh'
  obtain ⟨xs, ys, hgains, hgains', hsame⟩ := hwork.alike hwork' hs hs' hfresh hfresh'
  rw [clockTimes_work, clockTimes_work] at hsame
  exact ⟨xs, ys, hgains.of_work, hgains'.of_work, hsame⟩

namespace Sample

def report (number team : String) : Report :=
  ⟨number, none, none, none, .epoch, none, none, [⟨team, team⟩]⟩

def reports : List Report :=
  [report "A" "core", report "X" "ops", report "B" "core", report "A" "core"]

/-- A service that sends the reports page by page. -/
def archiveService : Provider Unit where
  source := .opsGenie
  answer
    | .page r, _ => (.ok ((Archive.reportPage reports r).alertPage .opsGenie r.teamIds), [], ())
    | .alert id, _ => (.ok (alert id), [], ())
    | .teams, _ => (.ok [], [], ())

/-- A stage where the clock shows some time. -/
def archiveStage (time : Instant) : Stage Unit :=
  ⟨archiveService, [], time, id⟩

/-- The request for the alerts of one of the teams, with a limit. -/
def teamRequest (limit : UInt32) : FetchRequest :=
  { request with teamIds := ["core"], limit }

def archiveRun (time : Instant) (limit : UInt32) :
    Program.Run (Importer.backfill .opsGenie false .zero (teamRequest limit)) :=
  Program.runOf (archiveStage time).handler _ (start store)

theorem sends_archiveRun (time : Instant) (limit : UInt32) :
    (Archive.ofReports .opsGenie ["core"] reports).Sends (archiveRun time limit).turns :=
  Archive.sends_ofReports (fun _ _ => rfl) _ _ _ (teamRequest limit)

theorem serves_archiveRun (time : Instant) (limit : UInt32) :
    ∃ s', Store.Serves Store.Performs store (archiveRun time limit).turns s' :=
  ⟨_, Stage.serves_turns rfl _ (start store)⟩

theorem fresh_archiveRun (time : Instant) (limit : UInt32)
    (h : drawnIds (archiveRun time limit).turns = [id 0, id 1, id 2, id 3]) :
    store.Fresh (drawnIds (archiveRun time limit).turns) := by
  rw [h]
  constructor <;> decide +kernel

theorem fresh_archiveRun_by_ones : store.Fresh (drawnIds (archiveRun .epoch 1).turns) :=
  fresh_archiveRun .epoch 1 (by decide +kernel)

end Sample

/-- Four reports are read one at a time, the second of which is left out, and all at once. -/
theorem archive_imported_by_ones :
    ∃ s₁ s₂, Store.Serves Store.Performs Sample.store (Sample.archiveRun .epoch 1).turns s₁ ∧
      Store.Serves Store.Performs Sample.store (Sample.archiveRun .epoch 0).turns s₂ ∧
      (Sample.archiveRun .epoch 1).result.2 = none ∧
      (fetchedAlerts (Sample.archiveRun .epoch 1).turns).length = 3 ∧
      (pageRequests (Sample.archiveRun .epoch 1).turns).length = 4 ∧
      (∃ xs ys : List Addition, Sample.store.Gains s₁ (Sample.archiveRun .epoch 1).turns xs ∧
        Sample.store.Gains s₂ (Sample.archiveRun .epoch 0).turns ys ∧
        xs.map (·.alert) = ys.map (·.alert)) ∧
      (Sample.archiveRun .epoch 1).result.1 = (Sample.archiveRun .epoch 0).result.1 := by
  obtain ⟨s₁, hs₁⟩ := Sample.serves_archiveRun .epoch 1
  obtain ⟨s₂, hs₂⟩ := Sample.serves_archiveRun .epoch 0
  obtain ⟨hdone, halerts, -, -, hcount, hother⟩ :=
    archive_imported (x := .ofReports .opsGenie ["core"] Sample.reports) (by decide)
      (Sample.archiveStage .epoch).handler (Sample.start Sample.store) .opsGenie false .zero
      (Sample.teamRequest 1) (Sample.sends_archiveRun .epoch 1)
  obtain ⟨xs, ys, hgains, hgains', hsame, -, hstats⟩ :=
    hother (Sample.archiveStage .epoch).handler (Sample.start Sample.store) (Sample.teamRequest 0)
      (Sample.sends_archiveRun .epoch 0) rfl _ s₁ s₂ hs₁ hs₂ Sample.fresh_archiveRun_by_ones
      (Sample.fresh_archiveRun .epoch 0 (by decide +kernel))
  exact ⟨s₁, s₂, hs₁, hs₂, hdone, (congrArg List.length halerts).trans (by decide),
    hcount.trans (by decide), ⟨xs, ys, hgains, hgains', hsame⟩, hstats (by decide +kernel)⟩

/-- From one store, over one archive, and with ids that are new, two runs count different numbers: the alert
that comes twice is skipped the second time, or an error if it has gone on record in the year 10000. -/
theorem numbers_differ_past_year_9999 :
    Sample.store.Reachable ∧
      ∃ s₁ s₂, (Archive.ofReports .opsGenie ["core"] Sample.reports).Sends (Sample.archiveRun .epoch 1).turns ∧
        (Archive.ofReports .opsGenie ["core"] Sample.reports).Sends (Sample.archiveRun Sample.late 0).turns ∧
        Store.Serves Store.Performs Sample.store (Sample.archiveRun .epoch 1).turns s₁ ∧
        Store.Serves Store.Performs Sample.store (Sample.archiveRun Sample.late 0).turns s₂ ∧
        Sample.store.Fresh (drawnIds (Sample.archiveRun .epoch 1).turns) ∧
        Sample.store.Fresh (drawnIds (Sample.archiveRun Sample.late 0).turns) ∧
        (Sample.archiveRun .epoch 1).result.1 = ⟨3, 2, 2, 1, 0⟩ ∧
        (Sample.archiveRun Sample.late 0).result.1 = ⟨3, 2, 2, 0, 1⟩ := by
  obtain ⟨s₁, hs₁⟩ := Sample.serves_archiveRun .epoch 1
  obtain ⟨s₂, hs₂⟩ := Sample.serves_archiveRun Sample.late 0
  exact ⟨Sample.reachable_store, s₁, s₂, Sample.sends_archiveRun .epoch 1,
    Sample.sends_archiveRun Sample.late 0, hs₁, hs₂,
    Sample.fresh_archiveRun_by_ones, Sample.fresh_archiveRun Sample.late 0 (by decide +kernel),
    by decide +kernel, by decide +kernel⟩

end OutageLedger
