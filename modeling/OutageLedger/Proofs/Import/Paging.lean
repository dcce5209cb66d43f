import OutageLedger.Import.Backfill
import OutageLedger.Proofs.Import.Turns

/-
  A run from page to page. `Paging` follows a run whatever the service and the store reply, and leaves the
  alerts of each page to `processAll`; it says exactly what a run does (`ends_backfill_iff`). What is done for
  the alerts, without what is done to fetch them, is one pass over all alerts fetched, in order
  (`Paging.ends_work`).
-/

namespace OutageLedger

/-- The call is made for an alert, and not to fetch one. -/
def ImportCall.isWork : ImportCall → Bool
  | .ask _ | .pause | .note (.fetchedPage ..) | .note (.offsetTooLarge ..) => false
  | _ => true

/-- The call is about the alert, or takes an outage back. -/
def StoreCall.Concerns (a : Alert) : StoreCall → Prop
  | find key => key = a.key
  | createOutage o => ∃ id time, o = a.openOutage id time
  | createAlert r => r.alert = a
  | deleteOutage _ => True

/-- The call is made for the alert before it is known what becomes of it. -/
def ImportCall.Ingests (a : Alert) : ImportCall → Prop
  | .store c => c.Concerns a
  | .now | .newId | .note (.noSuchOutage _) | .note (.rolledBack _) | .note (.cleanupFailed ..) => True
  | _ => False

theorem ImportCall.Ingests.isWork {a : Alert} {c : ImportCall} (h : c.Ingests a) : c.isWork = true := by
  cases c with
  | ask q => cases h
  | pause => cases h
  | note e =>
    cases e with
    | noSuchOutage id => rfl
    | rolledBack id => rfl
    | cleanupFailed id outageId e => rfl
    | _ => cases h
  | _ => rfl

/-- The turns that are taken for the alerts, and not to fetch them. -/
def work (ts : List ImportTurn) : List ImportTurn :=
  ts.filter (·.call.isWork)

theorem work_append (ts us : List ImportTurn) : work (ts ++ us) = work ts ++ work us :=
  List.filter_append ..

theorem work_of_forall {ts : List ImportTurn} (h : ∀ t ∈ ts, t.call.isWork = true) : work ts = ts :=
  List.filter_eq_self.mpr h

theorem work_cons_of_isWork {t : ImportTurn} {ts : List ImportTurn} (h : t.call.isWork = true) :
    work (t :: ts) = t :: work ts :=
  List.filter_cons_of_pos h

theorem work_cons_of_not_isWork {t : ImportTurn} {ts : List ImportTurn} (h : t.call.isWork = false) :
    work (t :: ts) = work ts :=
  List.filter_cons_of_neg (Bool.eq_false_iff.mp h)

/-- Fetching alerts touches no store. -/
theorem Store.serves_work_iff {rule : Store.Rule} {s s' : Store} {ts : List ImportTurn} :
    Store.Serves rule s (work ts) s' ↔ Store.Serves rule s ts s' := by
  induction ts generalizing s with
  | nil => exact Iff.rfl
  | cons t ts ih =>
    obtain ⟨c, r⟩ := t
    cases hwork : c.isWork with
    | false =>
      rw [work_cons_of_not_isWork hwork]
      cases c with
      | store c => cases hwork
      | _ => exact ih
    | true =>
      rw [work_cons_of_isWork hwork]
      cases c with
      | store c => exact exists_congr fun m => and_congr_right fun _ => ih
      | _ => exact ih

/-- No ids are drawn to fetch alerts. -/
theorem drawnIds_work (ts : List ImportTurn) : drawnIds (work ts) = drawnIds ts := by
  unfold drawnIds work
  rw [List.filterMap_filter]
  congr 1
  funext ⟨c, r⟩
  cases c with
  | note e => exact ite_self none
  | _ => rfl

/-- The clock is not read to fetch alerts. -/
theorem clockTimes_work (ts : List ImportTurn) : clockTimes (work ts) = clockTimes ts := by
  unfold clockTimes work
  rw [List.filterMap_filter]
  congr 1
  funext ⟨c, r⟩
  cases c with
  | note e => exact ite_self none
  | _ => rfl

/-- The numbers after some more alerts have been fetched. -/
def ImportStats.fetched (s : ImportStats) (n : Nat) : ImportStats :=
  { s with totalFetched := s.totalFetched + n }

namespace Importer

variable {source : Source} {dryRun : Bool} {stats stats' : ImportStats} {r : FetchRequest}
  {ts : List ImportTurn} {res : ImportStats × Option ImportError}

theorem ends_note {α : Type} {e : Event} {p : Importer α} {res : α}
    (h : (note e >>= fun _ => p).Ends ts res) :
    ∃ rest, ts = ⟨.note e, ()⟩ :: rest ∧ p.Ends rest res := by
  obtain ⟨r, rest, rfl, h1⟩ := Program.ends_call_iff.mp h
  exact ⟨rest, rfl, h1⟩

theorem ends_note_bind {α : Type} {e : Event} {p : Importer α} {res : α} (h : p.Ends ts res) :
    (note e >>= fun _ => p).Ends (⟨.note e, ()⟩ :: ts) res :=
  Program.ends_call_iff.mpr ⟨(), ts, rfl, h⟩

/-! ## Work on alerts -/

/-- Nothing is fetched. -/
abbrev OnlyWorks {α : Type} (p : Importer α) : Prop :=
  p.Makes fun c => ImportCall.isWork c = true

/-- Nothing is done but to take in the alert. -/
abbrev Ingests {α : Type} (a : Alert) (p : Importer α) : Prop :=
  p.Makes (ImportCall.Ingests a)

theorem ingests_existing (a : Alert) : Ingests a (existing a) := by
  refine ⟨rfl, fun r => ?_⟩
  cases r <;> exact trivial

theorem ingests_takeBack (a : Alert) (outageId : Uuid) (e : StoreError) :
    Ingests a (takeBack a outageId e) := by
  refine ⟨trivial, fun r => ?_⟩
  match r with
  | .ok true => exact ⟨trivial, fun _ => trivial⟩
  | .ok false => exact ⟨trivial, fun _ => ⟨trivial, fun _ => trivial⟩⟩
  | .error e => exact ⟨trivial, fun _ => trivial⟩

theorem ingests_attach (a : Alert) (outageId : Uuid) (newOutage : Bool) (time : Instant) :
    Ingests a (attach a outageId newOutage time) := by
  refine ⟨trivial, fun u => ⟨rfl, fun r => ?_⟩⟩
  match r, newOutage with
  | .ok (), _ => exact trivial
  | .error e, false => exact trivial
  | .error e, true =>
    exact Program.Makes.bind (p := takeBack a outageId e) (ingests_takeBack a outageId e)
      fun _ => trivial

theorem ingests_create (stamp : Stamp) (a : Alert) (target : Option Uuid) :
    Ingests a (create stamp a target) := by
  refine ⟨trivial, fun time => ?_⟩
  cases target with
  | some outageId => exact ingests_attach a outageId false time
  | none =>
    refine ⟨trivial, fun u => ⟨⟨u, stamp.time a time, rfl⟩, fun r => ?_⟩⟩
    match r with
    | .ok () => exact ingests_attach a u true time
    | .error e => exact trivial

theorem ingests_ingest (a : Alert) : Ingests a (ingest a) := by
  refine Program.Makes.bind (ingests_existing a) fun found => ?_
  match found with
  | .error e => exact trivial
  | .ok (some r) => exact trivial
  | .ok none =>
    refine Program.Makes.bind (ingests_create .trigger a none) fun made => ?_
    cases made <;> exact trivial

theorem onlyWorks_process (stats : ImportStats) (a : Alert) : OnlyWorks (process stats a) := by
  have hingest : OnlyWorks (ingest a) := (ingests_ingest a).mono fun _ => ImportCall.Ingests.isWork
  refine hingest.bind fun res => ?_
  cases res with
  | ok c => cases c <;> exact ⟨rfl, fun _ => trivial⟩
  | error e => cases e <;> exact ⟨rfl, fun _ => trivial⟩

/-- Nothing is fetched while the alerts of a page are taken in. -/
theorem onlyWorks_processAll (stats : ImportStats) (as : List Alert) :
    OnlyWorks (processAll dryRun stats as) := by
  induction as generalizing stats with
  | nil => exact trivial
  | cons a as ih =>
    cases dryRun with
    | true => exact ⟨rfl, fun _ => ih _⟩
    | false => exact Program.Makes.bind (onlyWorks_process stats a) fun stats' => ih stats'

theorem work_processAll {as : List Alert}
    (h : (processAll dryRun stats as).Ends ts stats') : work ts = ts :=
  work_of_forall ((onlyWorks_processAll stats as).of_leads h)

/-! ## Alerts in parts -/

theorem process_fetched (stats : ImportStats) (n : Nat) (a : Alert) :
    process (stats.fetched n) a = (·.fetched n) <$> process stats a := by
  unfold process
  rw [map_bind]
  congr 1
  funext res
  cases res with
  | ok c => cases c <;> rfl
  | error e => cases e <;> rfl

theorem processAll_cons (stats : ImportStats) (a : Alert) (as : List Alert) :
    processAll dryRun stats (a :: as) =
      (if dryRun then preview stats a else process stats a) >>= fun s => processAll dryRun s as := by
  cases dryRun <;> rfl

/-- How many alerts were fetched before has no influence on the work. -/
theorem processAll_fetched (stats : ImportStats) (n : Nat) (as : List Alert) :
    processAll dryRun (stats.fetched n) as = (·.fetched n) <$> processAll dryRun stats as := by
  have hone : ∀ (s : ImportStats) (a : Alert),
      (if dryRun then preview (s.fetched n) a else process (s.fetched n) a) =
        (·.fetched n) <$> (if dryRun then preview s a else process s a) := by
    intro s a
    cases dryRun with
    | true => rfl
    | false => exact process_fetched s n a
  induction as generalizing stats with
  | nil => rfl
  | cons a as ih =>
    rw [processAll_cons, processAll_cons, hone, map_bind, bind_map_left]
    congr 1
    funext s
    exact ih s

theorem processAll_append (stats : ImportStats) (as bs : List Alert) :
    processAll dryRun stats (as ++ bs) =
      processAll dryRun stats as >>= fun s => processAll dryRun s bs := by
  induction as generalizing stats with
  | nil => rfl
  | cons a as ih =>
    rw [List.cons_append, processAll_cons, processAll_cons, bind_assoc]
    congr 1
    funext s
    exact ih s

/-- Alerts taken in one after the other, with those before counted as fetched, are taken in at once. -/
theorem ends_processAll_append {as bs : List Alert} {us : List ImportTurn} {stats'' : ImportStats}
    (h : (processAll dryRun (stats.fetched as.length) as).Ends ts stats')
    (h' : (processAll dryRun (stats'.fetched bs.length) bs).Ends us stats'') :
    (processAll dryRun (stats.fetched (as ++ bs).length) (as ++ bs)).Ends (ts ++ us) stats'' := by
  have hsplit : stats.fetched (as ++ bs).length = (stats.fetched as.length).fetched bs.length := by
    unfold ImportStats.fetched
    rw [List.length_append, Nat.add_assoc]
  rw [hsplit, processAll_append, processAll_fetched]
  exact Program.ends_bind_iff.mpr
    ⟨ts, us, _, rfl, Program.ends_map_iff.mpr ⟨stats', h, rfl⟩, h'⟩

/-! ## Pages -/

/-- How a run stops after a page that has arrived. -/
inductive Stopping (source : Source) (r : FetchRequest) (page : AlertPage) : List ImportTurn → Prop
  | lastPage (h : (!page.hasMore || page.scanned = 0) = true) : Stopping source r page []
  | outOfRange (hmore : (!page.hasMore || page.scanned = 0) = false) (h : r.next? = none) :
    Stopping source r page [⟨.note (.offsetTooLarge source r.offset r.limit), ()⟩]

/-- The turns of a run from a page on, and its result. -/
inductive Paging (source : Source) (dryRun : Bool) :
    ImportStats → FetchRequest → List ImportTurn → ImportStats × Option ImportError → Prop
  | failed (stats : ImportStats) (r : FetchRequest) (e : ProviderError) :
    Paging source dryRun stats r [⟨.ask (.page r), .error e⟩] (stats, some ⟨r.offset, e⟩)
  | stopped {stats stats' : ImportStats} {r : FetchRequest} {page : AlertPage}
      {ts notes : List ImportTurn}
      (h : (processAll dryRun (stats.fetched page.alerts.length) page.alerts).Ends ts stats')
      (hstop : Stopping source r page notes) :
    Paging source dryRun stats r
      (⟨.ask (.page r), .ok page⟩ :: ⟨.note (.fetchedPage source r.offset page), ()⟩ :: (ts ++ notes))
      (stats', none)
  | next {stats stats' : ImportStats} {r next : FetchRequest} {page : AlertPage}
      {ts us : List ImportTurn} {res : ImportStats × Option ImportError}
      (h : (processAll dryRun (stats.fetched page.alerts.length) page.alerts).Ends ts stats')
      (hmore : (!page.hasMore || page.scanned = 0) = false) (hnext : r.next? = some next)
      (hrest : Paging source dryRun stats' next us res) :
    Paging source dryRun stats r
      (⟨.ask (.page r), .ok page⟩ :: ⟨.note (.fetchedPage source r.offset page), ()⟩ ::
        (ts ++ ⟨.pause, ()⟩ :: us)) res

theorem Stopping.quiet {r : FetchRequest} {page : AlertPage} (h : Stopping source r page ts) :
    ∀ t ∈ ts, t.isQuiet = true := by
  cases h with
  | lastPage h => exact fun _ h => absurd h List.not_mem_nil
  | outOfRange hmore h => simp [ImportTurn.isQuiet]

theorem paging_of_ends (h : r.limit ≠ 0) (hends : (walk source dryRun stats r h).Ends ts res) :
    Paging source dryRun stats r ts res := by
  fun_induction walk source dryRun stats r h generalizing ts with
  | case1 stats r h ih =>
    obtain ⟨answer, rest, rfl, h1⟩ := Program.ends_call_iff.mp hends
    match answer, h1 with
    | .error e, h1 =>
      obtain ⟨rfl, rfl⟩ := Program.ends_done_iff.mp h1
      exact .failed stats r e
    | .ok page, h1 =>
      obtain ⟨rest, rfl, h2⟩ := ends_note h1
      obtain ⟨us, vs, stats', rfl, hall, h3⟩ := Program.ends_bind_iff.mp h2
      split at h3
      · rename_i hlast
        obtain ⟨rfl, rfl⟩ := Program.ends_done_iff.mp h3
        exact .stopped hall (.lastPage hlast)
      · rename_i hmore
        have hgoes := Bool.eq_false_iff.mpr hmore
        split at h3
        · rename_i hnone
          obtain ⟨rest, rfl, hdone⟩ := ends_note h3
          obtain ⟨rfl, rfl⟩ := Program.ends_done_iff.mp hdone
          exact .stopped hall (.outOfRange hgoes hnone)
        · rename_i next hnext
          obtain ⟨_, rest, rfl, h4⟩ := Program.ends_call_iff.mp h3
          exact .next hall hgoes hnext (ih stats' next hnext h4)

theorem ends_of_paging (h : r.limit ≠ 0) (hpaging : Paging source dryRun stats r ts res) :
    (walk source dryRun stats r h).Ends ts res := by
  induction hpaging with
  | failed stats r e =>
    rw [walk]
    exact .turn _ _ _ (.stay _)
  | @stopped stats stats' r page ts notes hall hstop =>
    rw [walk]
    refine .turn _ _ _ (ends_note_bind (Program.ends_bind_iff.mpr ⟨ts, notes, stats', rfl, hall, ?_⟩))
    cases hstop with
    | lastPage hlast =>
      rw [if_pos hlast]
      exact .stay _
    | outOfRange hmore hnone =>
      rw [if_neg (Bool.eq_false_iff.mp hmore)]
      split
      · exact .turn _ _ _ (.stay _)
      · rename_i next hnext
        cases hnone.symm.trans hnext
  | @next stats stats' r next page ts us res hall hmore hnext _ ih =>
    rw [walk]
    refine .turn _ _ _ (ends_note_bind (Program.ends_bind_iff.mpr ⟨ts, _, stats', rfl, hall, ?_⟩))
    rw [if_neg (Bool.eq_false_iff.mp hmore)]
    split
    · rename_i hnone
      cases hnext.symm.trans hnone
    · rename_i next' hsome
      cases hnext.symm.trans hsome
      exact .turn _ _ _ (ih _)

/-- A run is a walk over the pages with the limit that is in effect. -/
theorem ends_backfill_iff :
    (backfill source dryRun stats r).Ends ts res ↔
      Paging source dryRun stats { r with limit := r.effectiveLimit } ts res :=
  ⟨paging_of_ends r.effectiveLimit_ne_zero, ends_of_paging r.effectiveLimit_ne_zero⟩

/-! ## The work of a run -/

theorem not_asked_of_onlyWorks {α : Type} {p q : Importer α} (hp : OnlyWorks p)
    (h : Program.Leads p ts q) : ∀ t ∈ ts, t.isAsked = false := by
  intro t ht
  have hwork := hp.of_leads h t ht
  obtain ⟨c, reply⟩ := t
  cases c with
  | ask q => cases hwork
  | _ => rfl

theorem not_asked_processAll {as : List Alert}
    (h : (processAll dryRun stats as).Ends ts stats') : ∀ t ∈ ts, t.isAsked = false :=
  not_asked_of_onlyWorks (onlyWorks_processAll stats as) h

theorem Stopping.work_eq_nil {page : AlertPage} (h : Stopping source r page ts) : work ts = [] := by
  cases h <;> rfl

theorem work_page {page : AlertPage} {as : List Alert} {us : List ImportTurn}
    (h : (processAll dryRun stats as).Ends ts stats') :
    work (⟨.ask (.page r), .ok page⟩ ::
      ⟨.note (.fetchedPage source r.offset page), ()⟩ :: (ts ++ us)) = ts ++ work us := by
  show work (ts ++ us) = ts ++ work us
  rw [work_append, work_processAll h]

/-- What is done for the alerts is one pass over all that were fetched, in order. -/
theorem Paging.ends_work (h : Paging source dryRun stats r ts res) :
    (processAll dryRun (stats.fetched (fetchedAlerts ts).length) (fetchedAlerts ts)).Ends
      (work ts) res.1 := by
  induction h with
  | failed stats r e => exact .stay _
  | stopped hall hstop =>
    rw [fetchedAlerts_page (not_asked_processAll hall), work_page hall, hstop.work_eq_nil,
      fetchedAlerts_of_not_asked (not_asked_of_quiet hstop.quiet), List.append_nil, List.append_nil]
    exact hall
  | @next stats stats' r next page ts us res hall hmore hnext _ ih =>
    have hpause : fetchedAlerts (⟨.pause, ()⟩ :: us) = fetchedAlerts us := rfl
    have hrest : work (⟨.pause, ()⟩ :: us) = work us := rfl
    rw [fetchedAlerts_page (not_asked_processAll hall), work_page hall, hpause, hrest]
    exact ends_processAll_append hall ih

end Importer

end OutageLedger
