import OutageLedger.Import.Live
import OutageLedger.Proofs.Import.Creation
import OutageLedger.Proofs.Import.Paging

/-
  The turns of an import, over pages or of a single alert. `Walking` follows a run from page to page and
  `Landing` the import of one alert; the parts that go through the store are those of `Creating`. Whatever
  the service and the store reply, a run is of this form (`ends_backfill`, `ends_importAlert`), so that what
  is to be shown of every run is shown by induction on `Walking`. How alerts are taken in, each once and in
  order, is `TakingAll`, and nothing else is done with them (`ends_processAll_iff`).
-/

namespace OutageLedger

/-- The numbers after an alert of which this became. -/
def ImportStats.count (s : ImportStats) :
    Except IngestError (Option Importer.Created) → ImportStats
  | .ok none => { s with skipped := s.skipped + 1 }
  | .ok (some c) =>
    { s with
      newOutages := s.newOutages + (if c.newOutage then 1 else 0)
      newAlerts := s.newAlerts + 1 }
  | .error (.duplicate _) => { s with skipped := s.skipped + 1 }
  | .error _ => { s with errors := s.errors + 1 }

/-- The numbers after some alerts that were only counted. -/
def ImportStats.previewed (s : ImportStats) (n : Nat) : ImportStats :=
  { s with newOutages := s.newOutages + n, newAlerts := s.newAlerts + n }

/-- The numbers after a page has arrived. -/
def ImportStats.fetch (s : ImportStats) (page : AlertPage) : ImportStats :=
  { s with totalFetched := s.totalFetched + page.alerts.length }

namespace Importer

variable {source : Source} {dryRun : Bool} {stats : ImportStats} {a : Alert} {ts : List ImportTurn}

/-! ## One alert -/

/-- The turns that take in an alert, and what becomes of it. -/
inductive Ingesting (a : Alert) : List ImportTurn → Except IngestError (Option Created) → Prop
  | unknown (e : StoreError) :
    Ingesting a [⟨.store (.find a.key), .error e⟩] (.error (.lookup a.externalId e))
  | known (r : AlertRecord) : Ingesting a [⟨.store (.find a.key), .ok (some r)⟩] (.ok none)
  | created {ts : List ImportTurn} {res : Except IngestError Created}
      (h : Creating .trigger a none ts res) :
    Ingesting a (⟨.store (.find a.key), .ok none⟩ :: ts) (res.map some)

/-- What is noted of an alert of which this became. -/
def remark (a : Alert) : Except IngestError (Option Created) → Event
  | .ok none => .skippedKnown a.externalId
  | .ok (some _) => .imported a
  | .error (.duplicate _) => .skippedConcurrent a.externalId
  | .error e => .notImported a.externalId e

/-- The turns for one alert of a page. -/
inductive Taking (a : Alert) : Bool → ImportStats → List ImportTurn → ImportStats → Prop
  | previewed (stats : ImportStats) :
    Taking a true stats [⟨.note (.wouldImport a), ()⟩]
      { stats with newOutages := stats.newOutages + 1, newAlerts := stats.newAlerts + 1 }
  | processed (stats : ImportStats) {ts : List ImportTurn} {res : Except IngestError (Option Created)}
      (h : Ingesting a ts res) :
    Taking a false stats (ts ++ [⟨.note (remark a res), ()⟩]) (stats.count res)

/-- How many alerts have been added with this result. -/
def ingestedBy : Except IngestError (Option Created) → Nat
  | .ok (some _) => 1
  | _ => 0

theorem newAlerts_count (stats : ImportStats) (res : Except IngestError (Option Created)) :
    (stats.count res).newAlerts = stats.newAlerts + ingestedBy res := by
  cases res with
  | ok c => cases c <;> rfl
  | error e => cases e <;> rfl

theorem ends_existing {res : Except IngestError (Option AlertRecord)}
    (h : (existing a).Ends ts res) :
    (∃ e, ts = [⟨.store (.find a.key), .error e⟩] ∧ res = .error (.lookup a.externalId e)) ∨
      ∃ r, ts = [⟨.store (.find a.key), .ok r⟩] ∧ res = .ok r := by
  obtain ⟨r, rest, rfl, h1⟩ := Program.ends_call_iff.mp h
  match r, h1 with
  | .error e, h1 =>
    obtain ⟨rfl, rfl⟩ := Program.ends_done_iff.mp h1
    exact Or.inl ⟨e, rfl, rfl⟩
  | .ok r, h1 =>
    obtain ⟨rfl, rfl⟩ := Program.ends_done_iff.mp h1
    exact Or.inr ⟨r, rfl, rfl⟩

theorem ends_ingest {res : Except IngestError (Option Created)} (h : (ingest a).Ends ts res) :
    Ingesting a ts res := by
  obtain ⟨us, vs, found, rfl, hfind, hrest⟩ := Program.ends_bind_iff.mp h
  rcases ends_existing hfind with ⟨e, rfl, rfl⟩ | ⟨r, rfl, rfl⟩
  · obtain ⟨rfl, rfl⟩ := Program.ends_done_iff.mp hrest
    exact .unknown e
  · match r, hrest with
    | some r, hrest =>
      obtain ⟨rfl, rfl⟩ := Program.ends_done_iff.mp hrest
      exact .known r
    | none, hrest =>
      obtain ⟨us, vs, made, rfl, hcreate, hdone⟩ := Program.ends_bind_iff.mp hrest
      have h1 := Ingesting.created (ends_create hcreate)
      match made, hdone, h1 with
      | .ok c, hdone, h1 =>
        obtain ⟨rfl, rfl⟩ := Program.ends_done_iff.mp hdone
        rw [List.append_nil]
        exact h1
      | .error e, hdone, h1 =>
        obtain ⟨rfl, rfl⟩ := Program.ends_done_iff.mp hdone
        rw [List.append_nil]
        exact h1

/-- Whatever becomes of an alert is noted and counted. -/
theorem process_eq (stats : ImportStats) (a : Alert) :
    process stats a =
      ingest a >>= fun res => note (remark a res) >>= fun _ => .done (stats.count res) := by
  unfold process
  congr 1
  funext res
  cases res with
  | ok c => cases c <;> rfl
  | error e => cases e <;> rfl

/-- Taking in an alert comes first, and then a note and a count of what became of it. -/
theorem exists_ingest_of_process {stats' : ImportStats} (h : (process stats a).Ends ts stats') :
    ∃ us res, ts = us ++ [⟨.note (remark a res), ()⟩] ∧ (ingest a).Ends us res ∧
      stats' = stats.count res := by
  rw [process_eq] at h
  obtain ⟨us, vs, res, rfl, hingest, hrest⟩ := Program.ends_bind_iff.mp h
  obtain ⟨rest, rfl, hdone⟩ := ends_note hrest
  obtain ⟨rfl, rfl⟩ := Program.ends_done_iff.mp hdone
  exact ⟨us, res, rfl, hingest, rfl⟩

theorem ends_process {stats' : ImportStats} (h : (process stats a).Ends ts stats') :
    Taking a false stats ts stats' := by
  obtain ⟨us, res, rfl, hingest, rfl⟩ := exists_ingest_of_process h
  exact .processed stats (ends_ingest hingest)

theorem ends_preview {stats' : ImportStats} (h : (preview stats a).Ends ts stats') :
    Taking a true stats ts stats' := by
  obtain ⟨rest, rfl, hdone⟩ := ends_note h
  obtain ⟨rfl, rfl⟩ := Program.ends_done_iff.mp hdone
  exact .previewed stats

theorem Ingesting.ends {res : Except IngestError (Option Created)} (h : Ingesting a ts res) :
    (ingest a).Ends ts res := by
  cases h with
  | unknown e => exact .turn _ _ _ (.stay _)
  | known r => exact .turn _ _ _ (.stay _)
  | @created ts res h =>
    refine .turn _ _ _ ?_
    refine (Program.ends_bind_iff (p := create .trigger a none)).mpr
      ⟨ts, [], res, (List.append_nil ts).symm, h.ends, ?_⟩
    cases res <;> exact .stay _

theorem Taking.ends {stats' : ImportStats} (h : Taking a dryRun stats ts stats') :
    (if dryRun then preview stats a else process stats a).Ends ts stats' := by
  cases h with
  | previewed stats => exact .turn _ _ _ (.stay _)
  | @processed stats ts res h =>
    show (process stats a).Ends _ _
    rw [process_eq]
    exact Program.ends_bind_iff.mpr ⟨ts, _, res, rfl, h.ends, .turn _ _ _ (.stay _)⟩

/-! ## The alerts of a page -/

/-- The turns for some alerts, one after the other. -/
inductive TakingAll (dryRun : Bool) :
    ImportStats → List Alert → List ImportTurn → ImportStats → Prop
  | nil (stats : ImportStats) : TakingAll dryRun stats [] [] stats
  | cons {stats stats' stats'' : ImportStats} {a : Alert} {as : List Alert} {ts us : List ImportTurn}
      (h : Taking a dryRun stats ts stats') (hrest : TakingAll dryRun stats' as us stats'') :
    TakingAll dryRun stats (a :: as) (ts ++ us) stats''

theorem ends_processAll {as : List Alert} {stats' : ImportStats}
    (h : (processAll dryRun stats as).Ends ts stats') : TakingAll dryRun stats as ts stats' := by
  induction as generalizing stats ts with
  | nil =>
    obtain ⟨rfl, rfl⟩ := Program.ends_done_iff.mp h
    exact .nil stats'
  | cons a as ih =>
    cases dryRun with
    | true =>
      have h1 : Program.Ends (preview stats a >>= fun s => processAll true s as) ts stats' := h
      obtain ⟨us, vs, mid, rfl, hone, hrest⟩ := Program.ends_bind_iff.mp h1
      exact .cons (ends_preview hone) (ih hrest)
    | false =>
      have h1 : Program.Ends (process stats a >>= fun s => processAll false s as) ts stats' := h
      obtain ⟨us, vs, mid, rfl, hone, hrest⟩ := Program.ends_bind_iff.mp h1
      exact .cons (ends_process hone) (ih hrest)

theorem TakingAll.ends {as : List Alert} {stats' : ImportStats}
    (h : TakingAll dryRun stats as ts stats') : (processAll dryRun stats as).Ends ts stats' := by
  induction h with
  | nil stats => exact .stay _
  | @cons stats mid stats' a as ts us hone _ ih =>
    rw [processAll_cons]
    exact Program.ends_bind_iff.mpr ⟨ts, us, mid, rfl, hone.ends, ih⟩

theorem ends_processAll_iff {as : List Alert} {stats' : ImportStats} :
    (processAll dryRun stats as).Ends ts stats' ↔ TakingAll dryRun stats as ts stats' :=
  ⟨ends_processAll, TakingAll.ends⟩

/-- In a dry run the alerts are only counted. -/
theorem TakingAll.eq_previewed {as : List Alert} {stats' : ImportStats}
    (h : TakingAll true stats as ts stats') : stats' = stats.previewed as.length := by
  induction h with
  | nil stats => rfl
  | @cons stats mid stats' a as ts us hone _ ih =>
    cases hone with
    | previewed stats =>
      rw [ih, ImportStats.previewed, ImportStats.previewed, List.length_cons, Nat.add_comm as.length,
        ← Nat.add_assoc, ← Nat.add_assoc]

/-! ## Only pages are asked for -/

theorem Attaching.not_asked {outageId : Uuid} {newOutage : Bool} {time : Instant}
    {res : Except IngestError Created} (h : Attaching a outageId newOutage time ts res) :
    ∀ t ∈ ts, t.isAsked = false := by
  cases h with
  | added u => simp [ImportTurn.isAsked]
  | refused u e h => simp [ImportTurn.isAsked]
  | takenBack u e b =>
    have hnotes := not_asked_of_quiet (quiet_removalNotes a outageId (.ok b))
    simpa [ImportTurn.isAsked] using hnotes
  | stranded u e cleanup =>
    have hnotes := not_asked_of_quiet (quiet_removalNotes a outageId (.error cleanup))
    simpa [ImportTurn.isAsked] using hnotes

theorem Creating.not_asked {stamp : Stamp} {target : Option Uuid} {res : Except IngestError Created}
    (h : Creating stamp a target ts res) : ∀ t ∈ ts, t.isAsked = false := by
  cases h with
  | given target time h => simpa [ImportTurn.isAsked] using h.not_asked
  | opened u time h => simpa [ImportTurn.isAsked] using h.not_asked
  | unopened u time e => simp [ImportTurn.isAsked]

theorem Ingesting.not_asked {res : Except IngestError (Option Created)} (h : Ingesting a ts res) :
    ∀ t ∈ ts, t.isAsked = false := by
  cases h with
  | unknown e => simp [ImportTurn.isAsked]
  | known r => simp [ImportTurn.isAsked]
  | created h => simpa [ImportTurn.isAsked] using h.not_asked

theorem Taking.not_asked {stats' : ImportStats} (h : Taking a dryRun stats ts stats') :
    ∀ t ∈ ts, t.isAsked = false := by
  cases h with
  | previewed stats => simp [ImportTurn.isAsked]
  | processed stats h =>
    exact List.forall_mem_append.mpr ⟨h.not_asked, by simp [ImportTurn.isAsked]⟩

theorem TakingAll.not_asked {as : List Alert} {stats' : ImportStats}
    (h : TakingAll dryRun stats as ts stats') : ∀ t ∈ ts, t.isAsked = false := by
  induction h with
  | nil stats => exact fun _ h => absurd h List.not_mem_nil
  | cons h _ ih => exact List.forall_mem_append.mpr ⟨h.not_asked, ih⟩

/-! ## Pages -/

/-- The turns of a run from a page on, and its result. -/
inductive Walking (source : Source) (dryRun : Bool) :
    ImportStats → FetchRequest → List ImportTurn → ImportStats × Option ImportError → Prop
  | failed (stats : ImportStats) (r : FetchRequest) (e : ProviderError) :
    Walking source dryRun stats r [⟨.ask (.page r), .error e⟩] (stats, some ⟨r.offset, e⟩)
  | stopped {stats stats' : ImportStats} {r : FetchRequest} {page : AlertPage}
      {ts notes : List ImportTurn} (h : TakingAll dryRun (stats.fetch page) page.alerts ts stats')
      (hstop : Stopping source r page notes) :
    Walking source dryRun stats r
      (⟨.ask (.page r), .ok page⟩ :: ⟨.note (.fetchedPage source r.offset page), ()⟩ :: (ts ++ notes))
      (stats', none)
  | next {stats stats' : ImportStats} {r next : FetchRequest} {page : AlertPage}
      {ts us : List ImportTurn} {res : ImportStats × Option ImportError}
      (h : TakingAll dryRun (stats.fetch page) page.alerts ts stats')
      (hmore : (!page.hasMore || page.scanned = 0) = false) (hnext : r.next? = some next)
      (hrest : Walking source dryRun stats' next us res) :
    Walking source dryRun stats r
      (⟨.ask (.page r), .ok page⟩ :: ⟨.note (.fetchedPage source r.offset page), ()⟩ ::
        (ts ++ ⟨.pause, ()⟩ :: us)) res

theorem TakingAll.totalFetched_eq {as : List Alert} {stats' : ImportStats}
    (h : TakingAll dryRun stats as ts stats') : stats'.totalFetched = stats.totalFetched := by
  induction h with
  | nil stats => rfl
  | cons h _ ih =>
    rw [ih]
    cases h with
    | previewed stats => rfl
    | @processed stats ts res h =>
      cases res with
      | ok made => cases made <;> rfl
      | error e => cases e <;> rfl

theorem Paging.walking {r : FetchRequest} {res : ImportStats × Option ImportError}
    (h : Paging source dryRun stats r ts res) : Walking source dryRun stats r ts res := by
  induction h with
  | failed stats r e => exact .failed stats r e
  | stopped h hstop => exact .stopped (ends_processAll h) hstop
  | next h hmore hnext _ ih => exact .next (ends_processAll h) hmore hnext ih

/-- The alerts of all pages are taken in, one after the other. -/
theorem Paging.takingAll {r : FetchRequest} {res : ImportStats × Option ImportError}
    (h : Paging source dryRun stats r ts res) :
    TakingAll dryRun (stats.fetched (fetchedAlerts ts).length) (fetchedAlerts ts) (work ts) res.1 :=
  ends_processAll_iff.mp h.ends_work

theorem Walking.totalFetched_eq {r : FetchRequest} {res : ImportStats × Option ImportError}
    (h : Walking source dryRun stats r ts res) :
    res.1.totalFetched = stats.totalFetched + (fetchedAlerts ts).length := by
  induction h with
  | failed stats r e => rfl
  | stopped h hstop =>
    rw [fetchedAlerts_page h.not_asked, fetchedAlerts_of_not_asked (not_asked_of_quiet hstop.quiet),
      List.append_nil]
    exact h.totalFetched_eq
  | @next stats stats' r next page ts us res h hmore hnext _ ih =>
    have hpause : fetchedAlerts (⟨.pause, ()⟩ :: us) = fetchedAlerts us := rfl
    rw [fetchedAlerts_page h.not_asked, hpause, List.length_append, ← Nat.add_assoc, ih, h.totalFetched_eq]
    rfl

/-- A run is one walk over the pages, with the limit that is in effect. -/
theorem ends_backfill {r : FetchRequest} {res : ImportStats × Option ImportError}
    (h : (backfill source dryRun stats r).Ends ts res) :
    Walking source dryRun stats { r with limit := r.effectiveLimit } ts res :=
  (ends_backfill_iff.mp h).walking

/-! ## A single alert by its number -/

end Importer

/-! ## Jobs -/

/-- An import: of the alerts of a window of time, with numbers counted before, or of a single alert. -/
inductive Job
  | backfill (source : Source) (stats : ImportStats) (r : FetchRequest)
  | live (id : String) (target : Option Uuid)

namespace Job

abbrev Result : Job → Type
  | backfill .. => ImportStats × Option ImportError
  | live .. => Except LiveError Importer.LiveImport

def importer : (j : Job) → Importer j.Result
  | backfill source stats r => Importer.backfill source false stats r
  | live id target => Importer.importAlert id target

end Job

/-- A job done. -/
structure Operation where
  job : Job
  run : Program.Run job.importer

end OutageLedger
