import OutageLedger.Proofs.Import.Outcome
import OutageLedger.Proofs.Import.Pipeline

/-
  What the numbers of a run say. Each alert fetched is counted once, whatever the store replies, and the
  numbers of new outages and new alerts go together (`TakingAll.counted_eq`, `TakingAll.newOutages_add`). If
  calls have the effect that they report, the rows added are as many as are counted, but for the outages that
  could not be removed again, of which there is one for each error that says so (`adds_processAll`). Main
  statement: `alerts_tallied`, for any runs one after the other.

  A call to the store is only held to its effect (`Store.Obeys`): it may fail for any reason, and what is
  looked up may be anything. That as many rows are added as are counted rests on the importer alone.
-/

namespace OutageLedger

open Store

/-! ## Numbers -/

namespace ImportStats

/-- How many alerts have been counted as new, as skipped or as an error. -/
def counted (s : ImportStats) : Nat :=
  s.newAlerts + s.skipped + s.errors

theorem counted_count (s : ImportStats) (res : Except IngestError (Option Importer.Created)) :
    (s.count res).counted = s.counted + 1 := by
  unfold counted
  cases res with
  | ok c =>
    cases c with
    | none =>
      show s.newAlerts + (s.skipped + 1) + s.errors = _
      omega
    | some c =>
      show s.newAlerts + 1 + s.skipped + s.errors = _
      omega
  | error e =>
    cases e with
    | duplicate key =>
      show s.newAlerts + (s.skipped + 1) + s.errors = _
      omega
    | _ => rfl

end ImportStats

namespace Importer

variable {a : Alert} {as : List Alert} {ts us : List ImportTurn} {dryRun : Bool} {source : Source}
  {stats stats' : ImportStats}

theorem TakingAll.counted_eq (h : TakingAll dryRun stats as ts stats') :
    stats'.counted = stats.counted + as.length := by
  induction h with
  | nil stats => rfl
  | @cons stats mid stats' a as ts us hone _ ih =>
    have hstep : mid.counted = stats.counted + 1 := by
      cases hone with
      | previewed stats =>
        show stats.newAlerts + 1 + stats.skipped + stats.errors =
          stats.newAlerts + stats.skipped + stats.errors + 1
        omega
      | processed stats h => exact stats.counted_count _
    rw [ih, hstep, List.length_cons]
    omega

/-- An alert that is added always has an outage opened for it. -/
theorem Ingesting.newOutage_eq {c : Created} (h : Ingesting a ts (.ok (some c))) : c.newOutage = true := by
  generalize hres : Except.ok (some c) = res at h
  cases h with
  | unknown e => cases hres
  | known r => cases hres
  | @created ts made h =>
    cases h with
    | unopened u time e => cases hres
    | opened u time h =>
      cases h with
      | added v =>
        cases hres
        rfl
      | refused v e h => cases hres
      | takenBack v e b h => cases hres
      | stranded v e cleanup h => cases hres

/-- Outages and alerts are counted as new together. -/
theorem TakingAll.newOutages_add (h : TakingAll dryRun stats as ts stats') :
    stats'.newOutages + stats.newAlerts = stats'.newAlerts + stats.newOutages := by
  induction h with
  | nil stats => exact Nat.add_comm ..
  | @cons stats mid stats' a as ts us hone _ ih =>
    have hstep : mid.newOutages + stats.newAlerts = mid.newAlerts + stats.newOutages := by
      cases hone with
      | previewed stats =>
        show stats.newOutages + 1 + stats.newAlerts = stats.newAlerts + 1 + stats.newOutages
        omega
      | @processed _ ts res h =>
        cases res with
        | ok c =>
          cases c with
          | none => exact Nat.add_comm ..
          | some c =>
            show stats.newOutages + (if c.newOutage then 1 else 0) + stats.newAlerts =
              stats.newAlerts + 1 + stats.newOutages
            rw [h.newOutage_eq, if_pos rfl]
            omega
        | error e => cases e <;> exact Nat.add_comm ..
    omega

/-! ## Rows -/

/-- On every store where calls have their effects, the turns add as many outages and records, if the ids
drawn are not in use. -/
def Adds (ts : List ImportTurn) (outages records : Nat) : Prop :=
  ∀ (s s' : Store) (ids : List Uuid), Serves Obeys s ts s' → s.Unused (drawnIds ts ++ ids) →
    ∃ os rs, s' = s.grown os rs ∧ os.length = outages ∧ rs.length = records ∧ s'.Unused ids

theorem adds_nil : Adds [] 0 0 := by
  intro s s' ids hs hunused
  obtain rfl : s' = s := hs
  exact ⟨[], [], s'.grown_nil.symm, rfl, rfl, hunused⟩

theorem Adds.append {n m n' m' : Nat} (h : Adds ts n m) (h' : Adds us n' m') :
    Adds (ts ++ us) (n + n') (m + m') := by
  intro s s' ids hs hunused
  obtain ⟨s1, hs1, hs2⟩ := serves_append_iff.mp hs
  rw [drawnIds_append, List.append_assoc] at hunused
  obtain ⟨os, rs, rfl, hos, hrs, hunused1⟩ := h s s1 _ hs1 hunused
  obtain ⟨os', rs', rfl, hos', hrs', hunused2⟩ := h' _ s' ids hs2 hunused1
  refine ⟨os ++ os', rs ++ rs', grown_grown, ?_, ?_, hunused2⟩
  · rw [List.length_append, hos, hos']
  · rw [List.length_append, hrs, hrs']

theorem adds_of_quiet (h : ∀ t ∈ ts, t.isQuiet = true) : Adds ts 0 0 := by
  intro s s' ids hs hunused
  rw [serves_quiet_iff h] at hs
  rw [drawnIds_of_quiet h, List.nil_append] at hunused
  exact adds_nil s s' ids hs hunused

/-- Whatever is refused, a record is added with an outage of its own, or an outage that could not be
removed again, or nothing. -/
theorem adds_creating {res : Except IngestError Created} (h : Creating .trigger a none ts res) :
    Adds ts (ingestedBy (res.map some) + (strandedIn res).length) (ingestedBy (res.map some)) := by
  intro s s' ids hs hunused
  have houtcome := h.outcome hs hunused.of_append_left
  generalize drawnIds ts = own at houtcome hunused
  cases houtcome with
  | opened u v time =>
    refine ⟨_, _, rfl, rfl, rfl, hunused.grown (fun o ho => ?_) fun r hr => ?_⟩
    · rw [List.mem_singleton.mp ho]
      exact List.mem_cons_self
    · rw [List.mem_singleton.mp hr]
      exact ⟨List.mem_cons_of_mem u List.mem_cons_self, List.mem_cons_self⟩
  | undone own e he =>
    have hnone : (strandedIn (Except.error e : Except IngestError Created)).length = 0 := by
      rw [strandedIn, he]
      rfl
    rw [hnone]
    exact ⟨[], [], s.grown_nil.symm, rfl, rfl, hunused.of_append_right⟩
  | stranded u v time e he =>
    have hone : (strandedIn (Except.error e : Except IngestError Created)).length = 1 := by
      rw [strandedIn, he]
      rfl
    rw [hone]
    refine ⟨_, [], rfl, rfl, rfl, hunused.grown (fun o ho => ?_) fun r hr => absurd hr List.not_mem_nil⟩
    rw [List.mem_singleton.mp ho]
    exact List.mem_cons_self

theorem adds_ingesting {res : Except IngestError (Option Created)} (h : Ingesting a ts res) :
    Adds ts (ingestedBy res + (strandedIn res).length) (ingestedBy res) := by
  intro s s' ids hs hunused
  cases h with
  | unknown e =>
    obtain ⟨s1, hcall, rfl⟩ := hs
    obtain rfl : s' = s := hcall
    exact ⟨[], [], s'.grown_nil.symm, rfl, rfl, hunused⟩
  | known r =>
    obtain ⟨s1, hcall, rfl⟩ := hs
    obtain rfl : s' = s := hcall
    exact ⟨[], [], s'.grown_nil.symm, rfl, rfl, hunused⟩
  | @created ts res h =>
    obtain ⟨s1, hcall, hrest⟩ := hs
    obtain rfl : s1 = s := hcall
    have hsame : strandedIn (res.map some) = strandedIn res := by
      cases res <;> rfl
    rw [hsame]
    exact adds_creating h s1 s' ids hrest hunused

/-! ## Errors that are noted -/

/-- The outages that the errors noted of alerts say were left behind. -/
def strandings (ts : List ImportTurn) : List Uuid :=
  (failures ts).filterMap IngestError.stranded?

theorem strandings_append (ts us : List ImportTurn) :
    strandings (ts ++ us) = strandings ts ++ strandings us := by
  unfold strandings
  rw [failures_append, List.filterMap_append]

theorem failures_work (ts : List ImportTurn) : failures (work ts) = failures ts := by
  unfold failures work
  rw [List.filterMap_filter]
  congr 1
  funext ⟨c, r⟩
  cases c with
  | note e => cases e <;> rfl
  | _ => exact ite_self none

/-- What becomes of an alert is noted at its end, and not before. -/
theorem strandings_process {res : Except IngestError (Option Created)} (h : (ingest a).Ends ts res) :
    strandings (ts ++ [⟨.note (remark a res), ()⟩]) = strandedIn res := by
  have hnone : failures ts = [] := by
    refine List.filterMap_eq_nil_iff.mpr fun t ht => ?_
    have hingest := (ingests_ingest a).of_leads h t ht
    obtain ⟨c, r⟩ := t
    cases c with
    | note e =>
      cases e with
      | notImported id e => cases hingest
      | _ => rfl
    | _ => rfl
  rw [strandings_append, strandings, hnone, List.filterMap_nil, List.nil_append]
  cases res with
  | ok c => cases c <;> rfl
  | error e => cases e <;> rfl

/-- As many records are added as alerts are counted as new, and as many outages but for those left behind. -/
theorem adds_processAll (h : (processAll false stats as).Ends ts stats') :
    ∃ n, stats'.newAlerts = stats.newAlerts + n ∧ Adds ts (n + (strandings ts).length) n := by
  induction as generalizing stats ts with
  | nil =>
    obtain ⟨rfl, rfl⟩ := Program.ends_done_iff.mp h
    exact ⟨0, rfl, adds_nil⟩
  | cons a as ih =>
    rw [processAll_cons] at h
    obtain ⟨us, vs, mid, rfl, hone, hrest⟩ := Program.ends_bind_iff.mp h
    obtain ⟨us, res, rfl, hingest, rfl⟩ := exists_ingest_of_process hone
    obtain ⟨n, hn, hadds⟩ := ih hrest
    have hnote : Adds [⟨.note (remark a res), ()⟩] 0 0 := adds_of_quiet (by simp [ImportTurn.isQuiet])
    have hfirst := ((adds_ingesting (ends_ingest hingest)).append hnote).append hadds
    refine ⟨ingestedBy res + n, ?_, ?_⟩
    · rw [hn, newAlerts_count, Nat.add_assoc]
    · rw [strandings_append, strandings_process hingest, List.length_append]
      have houtages : ingestedBy res + n + ((strandedIn res).length + (strandings vs).length) =
          ingestedBy res + (strandedIn res).length + 0 + (n + (strandings vs).length) := by
        omega
      rw [houtages]
      exact hfirst

/-! ## Runs one after the other -/

/-- Runs one after the other, each with the numbers that the one before has left. -/
def backfills (source : Source) (dryRun : Bool) :
    ImportStats → List FetchRequest → Importer ImportStats
  | stats, [] => pure stats
  | stats, r :: rs => do
    let res ← backfill source dryRun stats r
    backfills source dryRun res.1 rs

/-- What runs do for the alerts is one pass over all that they fetch, in order. -/
theorem ends_work_backfills {rs : List FetchRequest}
    (h : (backfills source dryRun stats rs).Ends ts stats') :
    (processAll dryRun (stats.fetched (fetchedAlerts ts).length) (fetchedAlerts ts)).Ends (work ts)
      stats' := by
  induction rs generalizing stats ts with
  | nil =>
    obtain ⟨rfl, rfl⟩ := Program.ends_done_iff.mp h
    exact .stay _
  | cons r rs ih =>
    obtain ⟨us, vs, res, rfl, hone, hrest⟩ := Program.ends_bind_iff.mp h
    rw [fetchedAlerts_append, work_append]
    exact ends_processAll_append (ends_backfill_iff.mp hone).ends_work (ih hrest)

end Importer

/-- Whatever the service and the store reply, each alert that some runs have fetched is counted once: as new,
as skipped, or as an error; and as many outages are counted as new as alerts. If each call to the store has
the effect that it reports and the ids drawn are not in use, as many records are added as alerts are counted
as new, and as many outages, besides one for each error that says an outage was left behind. -/
theorem alerts_tallied {σ : Type} (handler : Handler importing σ) (y : σ) (source : Source)
    (dryRun : Bool) (rs : List FetchRequest) :
    let run := Program.runOf handler (Importer.backfills source dryRun .zero rs) y
    let stats := run.result
    stats.totalFetched = (fetchedAlerts run.turns).length ∧
    stats.totalFetched = stats.newAlerts + stats.skipped + stats.errors ∧
    stats.newOutages = stats.newAlerts ∧
    (dryRun = false → ∀ s s' : Store, Serves Obeys s run.turns s' → s.Unused (drawnIds run.turns) →
      s.alerts <+: s'.alerts ∧ s'.alerts.length = s.alerts.length + stats.newAlerts ∧
      s.outages <+: s'.outages ∧
      s'.outages.length =
        s.outages.length + stats.newOutages + (Importer.strandings run.turns).length) := by
  intro run stats
  have hwork := Importer.ends_work_backfills run.ends
  have htaking := Importer.ends_processAll hwork
  have htotal : stats.totalFetched = 0 + (fetchedAlerts run.turns).length := htaking.totalFetched_eq
  have hcounted : stats.newAlerts + stats.skipped + stats.errors =
      0 + 0 + 0 + (fetchedAlerts run.turns).length := htaking.counted_eq
  have houtages : stats.newOutages = stats.newAlerts := htaking.newOutages_add
  refine ⟨by omega, by omega, houtages, ?_⟩
  rintro rfl s s' hs hunused
  rw [← serves_work_iff] at hs
  rw [← drawnIds_work, ← List.append_nil (drawnIds _)] at hunused
  obtain ⟨n, hn, hadds⟩ := Importer.adds_processAll hwork
  obtain ⟨os, rs, rfl, hos, hrs, -⟩ := hadds s s' [] hs hunused
  have hnew : stats.newAlerts = 0 + n := hn
  have hstranded : Importer.strandings (work run.turns) = Importer.strandings run.turns := by
    unfold Importer.strandings
    rw [Importer.failures_work]
  rw [hstranded] at hos
  refine ⟨List.prefix_append _ _, ?_, List.prefix_append _ _, ?_⟩
  · rw [grown, List.length_append, List.length_map, hrs]
    omega
  · rw [grown, List.length_append, List.length_map, hos]
    omega

namespace Sample

/-- A stage where the first alert to be added is refused, and no outage can be deleted. -/
def refusingStage : Stage Unit :=
  stage (.ok page) [⟨.createAlert, some 0, .backend "full"⟩, ⟨.deleteOutage, none, .backend "locked"⟩]

/-- Two runs over the same page. -/
def twoRuns : Program.Run (Importer.backfills .pagerDuty false .zero [request, request]) :=
  Program.runOf refusingStage.handler _ (start store)

theorem serves_twoRuns : ∃ s', Serves Obeys store twoRuns.turns s' := by
  have hserves := Stage.serves_turns_of_backend (s := refusingStage) (fun f hf => ?_)
    (Importer.backfills .pagerDuty false .zero [request, request]) (start store)
  · exact ⟨_, hserves.mono fun _ _ _ _ h => obeys_of_mayRefuse h⟩
  · rcases List.mem_cons.mp hf with rfl | hf
    · exact ⟨_, rfl⟩
    · exact ⟨_, by rw [List.mem_singleton.mp hf]⟩

theorem unused_twoRuns : store.Unused (drawnIds twoRuns.turns) := by
  have hids : drawnIds twoRuns.turns = [id 0, id 1, id 2, id 3] := by
    decide +kernel
  rw [hids]
  refine ⟨⟨?_, ?_, ?_⟩, ?_⟩ <;> decide +kernel

end Sample

/-- Of three alerts, the first is refused and its outage left behind, the second is on record but does not
read back, and the third is added; all three are on record or refused when they come again. -/
theorem alerts_tallied_of_refusals :
    ∃ s', Serves Obeys Sample.store Sample.twoRuns.turns s' ∧
      Sample.store.Unused (drawnIds Sample.twoRuns.turns) ∧
      Sample.twoRuns.result = ⟨6, 1, 1, 2, 3⟩ ∧
      Importer.strandings Sample.twoRuns.turns = [Sample.id 0] ∧
      s'.alerts.length = Sample.store.alerts.length + 1 ∧
      s'.outages.length = Sample.store.outages.length + 1 + 1 := by
  obtain ⟨s', hs⟩ := Sample.serves_twoRuns
  have hresult : Sample.twoRuns.result = ⟨6, 1, 1, 2, 3⟩ := by
    decide +kernel
  have hleft : Importer.strandings Sample.twoRuns.turns = [Sample.id 0] := by
    decide +kernel
  obtain ⟨-, -, -, hrows⟩ := alerts_tallied Sample.refusingStage.handler (Sample.start Sample.store)
    .pagerDuty false [Sample.request, Sample.request]
  obtain ⟨-, halerts, -, houtages⟩ := hrows rfl _ s' hs Sample.unused_twoRuns
  refine ⟨s', hs, Sample.unused_twoRuns, hresult, hleft, halerts.trans ?_, houtages.trans ?_⟩
  · exact congrArg (fun r : ImportStats => Sample.store.alerts.length + r.newAlerts) hresult
  · exact congrArg₂ (fun (r : ImportStats) (us : List Uuid) =>
      Sample.store.outages.length + r.newOutages + us.length) hresult hleft

end OutageLedger
