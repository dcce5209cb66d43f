import OutageLedger.Proofs.Import.Creation
import OutageLedger.Proofs.Import.Paging
import OutageLedger.Proofs.Store.Growth

/-
  Additions: a record with an outage of its own. On a store that performs every call, an alert whose identity
  is not on record is added so if the ids drawn are new (`creating_opened`), hence `creating_addition` for the
  outages that bear the time of their alert. What the outage says, field by field, is `Outage.OpenedFor`.
-/

namespace OutageLedger

/-- A record that was added together with an outage of its own, whose time is that of the alert. -/
structure Addition where
  outageId : Uuid
  recordId : Uuid
  alert : Alert
  time : Instant

namespace Addition

def outage (x : Addition) : Outage :=
  x.alert.openOutage x.outageId x.alert.triggeredAt

def record (x : Addition) : AlertRecord :=
  ⟨x.recordId, x.outageId, x.alert, x.time⟩

/-- The ids in the order in which they are drawn. -/
def ids (x : Addition) : List Uuid :=
  [x.outageId, x.recordId]

end Addition

namespace Store

variable {s : Store}

/-- The store with some additions. -/
def taken (s : Store) (xs : List Addition) : Store :=
  s.grown (xs.map (·.outage)) (xs.map (·.record))

theorem taken_nil (s : Store) : s.taken [] = s :=
  s.grown_nil

theorem taken_taken (xs ys : List Addition) : (s.taken xs).taken ys = s.taken (xs ++ ys) := by
  unfold taken
  rw [grown_grown, List.map_append, List.map_append]

theorem hasKey_taken (xs : List Addition) (key : AlertKey) :
    (s.taken xs).hasKey key = (s.hasKey key || decide (key ∈ (xs.map (·.alert)).map (·.key))) := by
  unfold taken
  rw [hasKey_grown, List.map_map, List.map_map]
  rfl

/-- These additions have been made in some turns, with the ids drawn in them and the times read, and
nothing else. -/
structure Gains (s s' : Store) (ts : List ImportTurn) (xs : List Addition) : Prop where
  store : s' = s.taken xs
  ids : xs.flatMap (·.ids) = drawnIds ts
  times : xs.map (·.time) = clockTimes ts

namespace Gains

variable {s' s'' : Store} {ts us : List ImportTurn} {xs ys : List Addition}

theorem nil (hids : drawnIds ts = []) (htimes : clockTimes ts = []) : s.Gains s ts [] :=
  ⟨s.taken_nil.symm, hids.symm, htimes.symm⟩

theorem append (h : s.Gains s' ts xs) (h' : s'.Gains s'' us ys) : s.Gains s'' (ts ++ us) (xs ++ ys) := by
  refine ⟨?_, ?_, ?_⟩
  · rw [h'.store, h.store, taken_taken]
  · rw [List.flatMap_append, h.ids, h'.ids, drawnIds_append]
  · rw [List.map_append, h.times, h'.times, clockTimes_append]

/-- Ids that are drawn later are new after the additions. -/
theorem fresh (h : s.Gains s' ts xs) (hfresh : s.Fresh (drawnIds (ts ++ us))) : s'.Fresh (drawnIds us) := by
  rw [drawnIds_append, ← h.ids] at hfresh
  rw [h.store]
  refine Fresh.grown hfresh (fun o ho => ?_) (fun r hr => ?_)
  · obtain ⟨x, hx, rfl⟩ := List.mem_map.mp ho
    exact List.mem_flatMap.mpr ⟨x, hx, List.mem_cons_self⟩
  · obtain ⟨x, hx, rfl⟩ := List.mem_map.mp hr
    exact List.mem_flatMap.mpr ⟨x, hx, List.mem_cons_of_mem _ List.mem_cons_self⟩

/-- Fetching alerts adds nothing. -/
theorem of_work (h : s.Gains s' (work ts) xs) : s.Gains s' ts xs :=
  ⟨h.store, h.ids.trans (drawnIds_work ts), h.times.trans (clockTimes_work ts)⟩

end Gains

end Store

namespace Importer

open Store

variable {s s' : Store} {a : Alert} {ts : List ImportTurn} {res : Except IngestError Created}

/-- With fresh ids and an identity that is not on record, an alert is added with an outage of its own. -/
theorem creating_opened {stamp : Stamp} (h : Creating stamp a none ts res) (hs : Serves Performs s ts s')
    (hfresh : s.Fresh (drawnIds ts)) (hkey : s.hasKey a.key = false) :
    ∃ u v time, drawnIds ts = [u, v] ∧ clockTimes ts = [time] ∧
      s' = s.grown [a.openOutage u (stamp.time a time)] [⟨v, u, a, time⟩] ∧
      res = .ok ⟨⟨v, u, a, time⟩, true⟩ := by
  cases h with
  | unopened u time e =>
    obtain ⟨s1, hcall, -⟩ := hs
    have hopen := perform_createOutage_of_new (o := a.openOutage u (stamp.time a time))
      (hfresh.no_outage u List.mem_cons_self)
    cases hopen.symm.trans hcall
  | @opened u time ts res h =>
    obtain ⟨s1, hcall, hrest⟩ := hs
    have hopen := perform_createOutage_of_new (o := a.openOutage u (stamp.time a time))
      (hfresh.no_outage u List.mem_cons_self)
    cases hopen.symm.trans hcall
    have hadd := fun v (hv : v ∈ drawnIds ts) =>
      perform_createAlert_grown (o := a.openOutage u (stamp.time a time)) (r := ⟨v, u, a, time⟩) hkey
        (hfresh.no_record v (List.mem_cons_of_mem u hv)) rfl
    -- of the ways to go on, those in which the second call fails are not those of a store
    cases h with
    | added v =>
      obtain ⟨s2, hcall2, rfl⟩ := hrest
      cases (hadd v List.mem_cons_self).symm.trans hcall2
      exact ⟨u, v, time, rfl, rfl, rfl, rfl⟩
    | refused v e h => cases h
    | takenBack v e b =>
      obtain ⟨s2, hcall2, -⟩ := hrest
      cases (hadd v List.mem_cons_self).symm.trans hcall2
    | stranded v e cleanup =>
      obtain ⟨s2, hcall2, -⟩ := hrest
      cases (hadd v List.mem_cons_self).symm.trans hcall2

/-- Such an alert makes an addition. -/
theorem creating_addition (h : Creating .trigger a none ts res) (hs : Serves Performs s ts s')
    (hfresh : s.Fresh (drawnIds ts)) (hkey : s.hasKey a.key = false) :
    ∃ x : Addition, s.Gains s' ts [x] ∧ x.alert = a ∧ res = .ok ⟨x.record, true⟩ := by
  obtain ⟨u, v, time, hids, htimes, hgrown, hres⟩ := creating_opened h hs hfresh hkey
  exact ⟨⟨u, v, a, time⟩, ⟨hgrown, hids.symm, htimes.symm⟩, rfl, hres⟩

end Importer

end OutageLedger
