import OutageLedger.Proofs.Import.Addition
import OutageLedger.Proofs.Import.Newcomers
import OutageLedger.Proofs.Import.Rehearsal
import OutageLedger.Proofs.Import.Walk
import OutageLedger.Proofs.Store.LookUp

/-
  What a run makes of the alerts it fetches, on a store that performs every call. `TakenIn` says it for
  the alerts fetched so far: each newcomer has been added with an outage of its own, and all others have
  been counted as skipped, or as an error where their row does not read back. Main statements:
  `takenIn_walking` and, for the whole of a run, `run_adds_newcomers`.
-/

namespace OutageLedger

/-! ## Alerts taken in -/

namespace Ledger

variable {l m n : Ledger}

/-- These additions have been made for some alerts. -/
structure Receives (l m : Ledger) (as : List Alert) (xs : List Addition) : Prop where
  grows : l.Grows m (xs.map (·.outage)) (xs.map (·.record))
  alerts : xs.map (·.alert) = newcomers l.keys as

namespace Receives

variable {as bs : List Alert} {xs ys : List Addition}

theorem nil (l : Ledger) : l.Receives l [] [] :=
  ⟨.refl l, rfl⟩

theorem keys (h : l.Receives m as xs) : m.keys = knownAfter l.keys as := by
  have hkeys : (xs.map (·.record)).map (·.key) = (xs.map (·.alert)).map (·.key) := by
    rw [List.map_map, List.map_map]
    rfl
  rw [h.grows.keys, hkeys, h.alerts]
  rfl

theorem append (h : l.Receives m as xs) (h' : m.Receives n bs ys) :
    l.Receives n (as ++ bs) (xs ++ ys) := by
  constructor
  · rw [List.map_append, List.map_append]
    exact h.grows.trans h'.grows
  · rw [List.map_append, newcomers_append, h.alerts, h'.alerts, h.keys]

theorem fresh {ids : List Uuid} (h : l.Receives m as xs)
    (hfresh : l.Fresh (xs.flatMap (·.ids) ++ ids)) : m.Fresh ids := by
  refine hfresh.grows h.grows (fun o ho => ?_) (fun r hr => ?_)
  · obtain ⟨x, hx, rfl⟩ := List.mem_map.mp ho
    exact List.mem_flatMap.mpr ⟨x, hx, List.mem_cons_self⟩
  · obtain ⟨x, hx, rfl⟩ := List.mem_map.mp hr
    exact List.mem_flatMap.mpr ⟨x, hx, List.mem_cons_of_mem _ List.mem_cons_self⟩

theorem keys_nodup (h : l.Receives m as xs) : (xs.map (·.alert.key)).Nodup := by
  have hkeys := m.keys_nodup
  rw [h.grows.alerts, List.map_append] at hkeys
  have hadded := hkeys.of_append_right
  rw [List.map_map] at hadded
  exact hadded

theorem outageIds_nodup (h : l.Receives m as xs) : (l.outageIds ++ xs.map (·.outageId)).Nodup := by
  have hids := m.outageIds_nodup
  rw [h.grows.outages, List.map_append, List.map_map] at hids
  exact hids

/-- Nothing but its record is attached to an outage that was added. -/
theorem own_outage (h : l.Receives m as xs) {x : Addition} (hx : x ∈ xs) :
    x.outageId ∉ l.outageIds ∧ m.referents.count x.outageId = 1 := by
  have hnodup := h.outageIds_nodup
  have hmem : x.outageId ∈ xs.map (·.outageId) := List.mem_map_of_mem hx
  have hnew : x.outageId ∉ l.outageIds := fun hold =>
    List.disjoint_of_nodup_append hnodup hold hmem
  have hnone : x.outageId ∉ l.referents := by
    intro hold
    obtain ⟨r, hr, hid⟩ := List.mem_map.mp hold
    exact hnew (hid ▸ l.attached r hr)
  have hadded : (xs.map (·.record)).map (·.outageId) = xs.map (·.outageId) := by
    rw [List.map_map]
    rfl
  refine ⟨hnew, ?_⟩
  rw [h.grows.referents, List.count_append, List.count_eq_zero_of_not_mem hnone, hadded,
    List.count_eq_one_of_mem hnodup.of_append_right hmem]

end Receives

/-- Some alerts have been taken in, with these additions and these numbers before and after. -/
structure TakenIn (l m : Ledger) (as : List Alert) (xs : List Addition)
    (stats stats' : ImportStats) : Prop extends l.Receives m as xs where
  newOutages : stats'.newOutages = stats.newOutages + xs.length
  newAlerts : stats'.newAlerts = stats.newAlerts + xs.length
  skipped : stats'.skipped = stats.skipped + (repeats l.keys as).countP fun a => m.reads a.key
  errors : stats'.errors = stats.errors + (repeats l.keys as).countP fun a => !m.reads a.key

namespace TakenIn

variable {as bs : List Alert} {xs ys : List Addition} {stats stats' stats'' : ImportStats}

theorem nil (l : Ledger) (stats : ImportStats) : l.TakenIn l [] [] stats stats :=
  ⟨.nil l, rfl, rfl, rfl, rfl⟩

theorem of_reads {a : Alert} (hkey : a.key ∈ l.keys) (hreads : l.reads a.key = true) :
    l.TakenIn l [a] [] stats { stats with skipped := stats.skipped + 1 } := by
  have hnone : newcomers l.keys [a] = [] := newcomers_cons_of_mem hkey
  have hold : repeats l.keys [a] = [a] := repeats_cons_of_mem hkey
  refine ⟨⟨.refl l, hnone.symm⟩, rfl, rfl, ?_, ?_⟩
  · rw [hold, List.countP_singleton, hreads]
    rfl
  · rw [hold, List.countP_singleton, hreads]
    rfl

theorem of_not_reads {a : Alert} (hkey : a.key ∈ l.keys) (hreads : l.reads a.key = false) :
    l.TakenIn l [a] [] stats { stats with errors := stats.errors + 1 } := by
  have hnone : newcomers l.keys [a] = [] := newcomers_cons_of_mem hkey
  have hold : repeats l.keys [a] = [a] := repeats_cons_of_mem hkey
  refine ⟨⟨.refl l, hnone.symm⟩, rfl, rfl, ?_, ?_⟩
  · rw [hold, List.countP_singleton, hreads]
    rfl
  · rw [hold, List.countP_singleton, hreads]
    rfl

theorem of_newcomer {x : Addition} (hkey : x.alert.key ∉ l.keys)
    (hgrows : l.Grows m [x.outage] [x.record]) :
    l.TakenIn m [x.alert] [x] stats
      { stats with newOutages := stats.newOutages + 1, newAlerts := stats.newAlerts + 1 } := by
  have hnew : newcomers l.keys [x.alert] = [x.alert] := newcomers_cons_of_not_mem hkey
  have hnone : repeats l.keys [x.alert] = [] := repeats_cons_of_not_mem hkey
  refine ⟨⟨hgrows, hnew.symm⟩, rfl, rfl, ?_, ?_⟩
  · rw [hnone]
    rfl
  · rw [hnone]
    rfl

/-- The numbers for repeats are the same at the end of a longer run. -/
theorem countP_repeats (h : l.TakenIn m as xs stats stats') (h' : m.TakenIn n bs ys stats' stats'')
    (f : Bool → Bool) :
    ((repeats l.keys as).countP fun a => f (m.reads a.key)) =
      (repeats l.keys as).countP fun a => f (n.reads a.key) := by
  refine List.countP_congr fun a ha => ?_
  have hkey : a.key ∈ m.keys := by
    rw [h.keys]
    exact key_mem_knownAfter (mem_of_mem_repeats ha)
  rw [h'.grows.reads_eq hkey]

theorem append (h : l.TakenIn m as xs stats stats') (h' : m.TakenIn n bs ys stats' stats'') :
    l.TakenIn n (as ++ bs) (xs ++ ys) stats stats'' := by
  refine ⟨h.toReceives.append h'.toReceives, ?_, ?_, ?_, ?_⟩
  · rw [h'.newOutages, h.newOutages, List.length_append, Nat.add_assoc]
  · rw [h'.newAlerts, h.newAlerts, List.length_append, Nat.add_assoc]
  · rw [h'.skipped, h.skipped, repeats_append, List.countP_append, h.keys.symm,
      h.countP_repeats h' fun b => b, Nat.add_assoc]
  · rw [h'.errors, h.errors, repeats_append, List.countP_append, h.keys.symm,
      h.countP_repeats h' (!·), Nat.add_assoc]

/-- How many alerts were fetched is counted elsewhere. -/
theorem of_fetch {page : AlertPage} (h : l.TakenIn m as xs (stats.fetch page) stats') :
    l.TakenIn m as xs stats stats' :=
  ⟨h.toReceives, h.newOutages, h.newAlerts, h.skipped, h.errors⟩

end TakenIn

end Ledger

open Store

namespace Importer

variable {l : Ledger} {s' : Store} {a : Alert} {as : List Alert} {ts : List ImportTurn}

/-! ## One alert -/

/-- With fresh ids and an identity that is not on record, an alert is added. -/
theorem creating_added {res : Except IngestError Created} (h : Creating .trigger a none ts res)
    (hs : Serves Performs l.store ts s') (hfresh : l.Fresh (drawnIds ts)) (hkey : a.key ∉ l.keys) :
    ∃ (x : Addition) (m : Ledger), s' = m.store ∧ x.alert = a ∧ l.Grows m [x.outage] [x.record] ∧
      drawnIds ts = x.ids ∧ res = .ok ⟨x.record, true⟩ := by
  obtain ⟨x, hgains, rfl, hres⟩ :=
    creating_addition h hs hfresh.store ((l.hasKey_store _).trans (decide_eq_false hkey))
  have hids : drawnIds ts = x.ids := hgains.ids.symm.trans (List.flatMap_singleton ..)
  rw [hids] at hfresh
  have hu : x.outage.id ∉ l.outageIds := hfresh.not_outage _ List.mem_cons_self
  have hv : x.record.id ∉ l.recordIds :=
    hfresh.not_record _ (List.mem_cons_of_mem _ List.mem_cons_self)
  obtain ⟨m, -, hgrows⟩ := l.perform_createAlert_addOutage (r := x.record) hu hkey hv rfl
  exact ⟨x, m, hgains.store.trans hgrows.store.symm, rfl, hgrows, hids, hres⟩

theorem takenIn_ingesting {stats : ImportStats} {res : Except IngestError (Option Created)}
    (h : Ingesting a ts res) (hs : Serves Performs l.store ts s') (hfresh : l.Fresh (drawnIds ts)) :
    ∃ (m : Ledger) (xs : List Addition), s' = m.store ∧
      l.TakenIn m [a] xs stats (stats.count res) ∧ drawnIds ts = xs.flatMap (·.ids) := by
  by_cases hkey : a.key ∈ l.keys
  · cases h with
    | unknown e =>
      obtain ⟨s1, hcall, rfl⟩ := hs
      rcases Ledger.find_of_mem_keys hkey with ⟨-, r, -, -, hfind⟩ | ⟨hreads, -⟩
      · cases (congrArg Prod.fst hcall).symm.trans hfind
      · exact ⟨l, [], (congrArg Prod.snd hcall).symm, .of_not_reads hkey hreads, rfl⟩
    | known r =>
      obtain ⟨s1, hcall, rfl⟩ := hs
      rcases Ledger.find_of_mem_keys hkey with ⟨hreads, -⟩ | ⟨-, e, hfind⟩
      · exact ⟨l, [], (congrArg Prod.snd hcall).symm, .of_reads hkey hreads, rfl⟩
      · cases (congrArg Prod.fst hcall).symm.trans hfind
    | created h =>
      obtain ⟨s1, hcall, -⟩ := hs
      rcases Ledger.find_of_mem_keys hkey with ⟨-, r, -, -, hfind⟩ | ⟨-, e, hfind⟩
      · cases (congrArg Prod.fst hcall).symm.trans hfind
      · cases (congrArg Prod.fst hcall).symm.trans hfind
  · have hfind := l.find_of_not_mem hkey
    cases h with
    | unknown e =>
      obtain ⟨s1, hcall, -⟩ := hs
      cases (congrArg Prod.fst hcall).symm.trans hfind
    | known r =>
      obtain ⟨s1, hcall, -⟩ := hs
      cases (congrArg Prod.fst hcall).symm.trans hfind
    | created h =>
      obtain ⟨s1, hcall, hrest⟩ := hs
      have hsame : l.store = s1 := congrArg Prod.snd hcall
      rw [← hsame] at hrest
      obtain ⟨x, m, hm, rfl, hgrows, hids, rfl⟩ := creating_added h hrest hfresh hkey
      refine ⟨m, [x], hm, .of_newcomer hkey hgrows, ?_⟩
      rw [List.flatMap_singleton]
      exact hids

/-! ## Runs -/

theorem takenIn_takingAll {stats stats' : ImportStats} (h : TakingAll false stats as ts stats')
    (hs : Serves Performs l.store ts s') (hfresh : l.Fresh (drawnIds ts)) :
    ∃ (m : Ledger) (xs : List Addition), s' = m.store ∧ l.TakenIn m as xs stats stats' ∧
      drawnIds ts = xs.flatMap (·.ids) := by
  induction h generalizing l with
  | nil stats => exact ⟨l, [], hs, .nil l stats, rfl⟩
  | @cons stats stats' stats'' a as ts us hone _ ih =>
    obtain ⟨s1, hs1, hs2⟩ := serves_append_iff.mp hs
    cases hone with
    | @processed stats ts res h =>
      obtain ⟨s2, hs3, rfl⟩ := serves_append_iff.mp hs1
      have hids : drawnIds (ts ++ [⟨.note (remark a res), ()⟩] ++ us) = drawnIds ts ++ drawnIds us := by
        rw [drawnIds_append, drawnIds_append]
        exact congrArg (· ++ drawnIds us) (List.append_nil _)
      rw [hids] at hfresh ⊢
      obtain ⟨m, xs, rfl, htaken, hxs⟩ := takenIn_ingesting h hs3 hfresh.of_append
      rw [hxs] at hfresh ⊢
      obtain ⟨n, ys, rfl, htaken', hys⟩ := ih hs2 (htaken.fresh hfresh)
      refine ⟨n, xs ++ ys, rfl, htaken.append htaken', ?_⟩
      rw [hys, List.flatMap_append]

/-- A run takes in the alerts of its pages, in order, whether it ends with an error or not. -/
theorem takenIn_walking {source : Source} {stats : ImportStats} {r : FetchRequest}
    {res : ImportStats × Option ImportError} (h : Walking source false stats r ts res)
    (hs : Serves Performs l.store ts s') (hfresh : l.Fresh (drawnIds ts)) :
    ∃ (m : Ledger) (xs : List Addition), s' = m.store ∧
      l.TakenIn m (fetchedAlerts ts) xs stats res.1 ∧ drawnIds ts = xs.flatMap (·.ids) := by
  induction h generalizing l with
  | failed stats r e => exact ⟨l, [], hs, .nil l stats, rfl⟩
  | @stopped stats stats' r page ts notes h hstop =>
    obtain ⟨s1, hs1, hnotes⟩ := serves_append_iff.mp hs
    rw [serves_quiet_iff hstop.quiet] at hnotes
    rw [fetchedAlerts_page h.not_asked, fetchedAlerts_of_not_asked (not_asked_of_quiet hstop.quiet),
      List.append_nil]
    have hids : drawnIds (ts ++ notes) = drawnIds ts := by
      rw [drawnIds_append, drawnIds_of_quiet hstop.quiet, List.append_nil]
    have hfresh' : l.Fresh (drawnIds (ts ++ notes)) := hfresh
    rw [hids] at hfresh'
    obtain ⟨m, xs, rfl, htaken, hxs⟩ := takenIn_takingAll h hs1 hfresh'
    exact ⟨m, xs, hnotes, htaken.of_fetch, hids.trans hxs⟩
  | @next stats stats' r next page ts us res h hmore hnext _ ih =>
    obtain ⟨s1, hs1, hs2⟩ := serves_append_iff.mp hs
    have hpause : fetchedAlerts (⟨.pause, ()⟩ :: us) = fetchedAlerts us := rfl
    rw [fetchedAlerts_page h.not_asked, hpause]
    have hids : drawnIds (ts ++ ⟨.pause, ()⟩ :: us) = drawnIds ts ++ drawnIds us :=
      drawnIds_append _ _
    have hfresh' : l.Fresh (drawnIds (ts ++ ⟨.pause, ()⟩ :: us)) := hfresh
    rw [hids] at hfresh'
    obtain ⟨m, xs, rfl, htaken, hxs⟩ := takenIn_takingAll h hs1 hfresh'.of_append
    rw [hxs] at hfresh' hids
    obtain ⟨n, ys, hn, htaken', hys⟩ := ih hs2 (htaken.fresh hfresh')
    refine ⟨n, xs ++ ys, hn, htaken.of_fetch.append htaken', hids.trans ?_⟩
    rw [hys, List.flatMap_append]

theorem takenIn_run {source : Source} {stats : ImportStats} {r : FetchRequest}
    (run : Program.Run (backfill source false stats r))
    (hs : Serves Performs l.store run.turns s') (hfresh : l.Fresh (drawnIds run.turns)) :
    ∃ (m : Ledger) (xs : List Addition), s' = m.store ∧
      l.TakenIn m (fetchedAlerts run.turns) xs stats run.result.1 ∧
      drawnIds run.turns = xs.flatMap (·.ids) :=
  takenIn_walking (ends_backfill run.ends) hs hfresh

end Importer

/-! ## What a run does -/

namespace Sample

/-- A run over the sample page. -/
def run (s : Store) : Program.Run (Importer.backfill .pagerDuty false .zero request) :=
  Program.runOf (stage (.ok page) []).handler _ (start s)

theorem serves_run (s : Store) :
    ∃ s', Serves Performs s (run s).turns s' :=
  ⟨_, Stage.serves_turns rfl _ (start s)⟩

theorem drawnIds_run : drawnIds (run store).turns = [id 0, id 1] := by
  unfold run Program.runOf
  rw [Importer.backfill, Importer.walk]
  decide +kernel

theorem fresh_run : store.Fresh (drawnIds (run store).turns) := by
  rw [drawnIds_run]
  constructor <;> decide +kernel

end Sample

end OutageLedger
