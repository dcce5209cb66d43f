import Mathlib.Data.List.Nodup
import OutageLedger.Proofs.Store.Constraint
import OutageLedger.Proofs.Uuid
import OutageLedger.Store.Call

/-
  Ledgers: the outages and the records that a store has rows for, with unique ids, unique identities, and
  an outage for every record. Each call on the store of a ledger is said in terms of the ledger
  (`perform_createOutage`, `perform_createAlert`, `perform_deleteOutage`, `find_of_not_mem`, `find_of_mem`
  and the like), and every store that calls can make of an empty one is the store of a ledger
  (`Store.Reachable.exists_ledger`).
-/

namespace OutageLedger

theorem nodup_map_concat {α β : Type} {f : α → β} {as : List α} {a : α} (h : (as.map f).Nodup)
    (ha : f a ∉ as.map f) : ((as ++ [a]).map f).Nodup := by
  rw [List.map_append]
  refine h.append (List.nodup_singleton _) ?_
  rw [List.disjoint_comm]
  exact List.singleton_disjoint.mpr ha

/-- Where no two share a key, what has a key is found by it. -/
theorem find?_of_nodup {α κ : Type} [DecidableEq κ] {key : α → κ} {as : List α} (hkeys : (as.map key).Nodup)
    {a : α} (h : a ∈ as) : as.find? (key · = key a) = some a := by
  cases hfind : as.find? (key · = key a) with
  | none => exact absurd (decide_eq_true rfl) (List.find?_eq_none.mp hfind a h)
  | some b =>
    have hb := List.mem_of_find?_eq_some hfind
    have hkey := List.find?_some hfind
    rw [List.inj_on_of_nodup_map hkeys hb h (of_decide_eq_true hkey)]

/-- The store without an outage and the records attached to it. -/
def Store.without (s : Store) (id : Uuid) : Store :=
  ⟨s.outages.filter (·.cell 0 != .uuid id), s.alerts.filter (·.cell 1 != .uuid id)⟩

/-- The call is to delete this outage. -/
def StoreCall.deletes : StoreCall → Uuid → Bool
  | deleteOutage id, u => id = u
  | find _, _ | createOutage _, _ | createAlert _, _ => false

structure Ledger where
  outages : List Outage
  alerts : List AlertRecord
  outageIds_nodup : (outages.map (·.id)).Nodup
  recordIds_nodup : (alerts.map (·.id)).Nodup
  keys_nodup : (alerts.map (·.key)).Nodup
  attached : ∀ r ∈ alerts, r.outageId ∈ outages.map (·.id)

namespace Ledger

def outageIds (l : Ledger) : List Uuid :=
  l.outages.map (·.id)

def recordIds (l : Ledger) : List Uuid :=
  l.alerts.map (·.id)

/-- The identities on record. -/
def keys (l : Ledger) : List AlertKey :=
  l.alerts.map (·.key)

/-- The outages that records are attached to. -/
def referents (l : Ledger) : List Uuid :=
  l.alerts.map (·.outageId)

/-- The store that has a row for each outage and each record. -/
def store (l : Ledger) : Store :=
  ⟨l.outages.map Outage.row, l.alerts.map AlertRecord.row⟩

def empty : Ledger :=
  ⟨[], [], .nil, .nil, .nil, fun _ h => absurd h List.not_mem_nil⟩

/-! ## Changes -/

def addOutage (l : Ledger) (o : Outage) (h : o.id ∉ l.outageIds) : Ledger where
  outages := l.outages ++ [o]
  alerts := l.alerts
  outageIds_nodup := nodup_map_concat l.outageIds_nodup h
  recordIds_nodup := l.recordIds_nodup
  keys_nodup := l.keys_nodup
  attached := by
    intro r hr
    rw [List.map_append]
    exact List.mem_append_left _ (l.attached r hr)

def addAlert (l : Ledger) (r : AlertRecord) (hkey : r.key ∉ l.keys) (hid : r.id ∉ l.recordIds)
    (houtage : r.outageId ∈ l.outageIds) : Ledger where
  outages := l.outages
  alerts := l.alerts ++ [r]
  outageIds_nodup := l.outageIds_nodup
  recordIds_nodup := nodup_map_concat l.recordIds_nodup hid
  keys_nodup := nodup_map_concat l.keys_nodup hkey
  attached := by
    intro s hs
    rcases List.mem_append.mp hs with hs | hs
    · exact l.attached s hs
    · rw [List.mem_singleton.mp hs]
      exact houtage

/-- The ledger without an outage and without the records attached to it. -/
def removeOutage (l : Ledger) (id : Uuid) : Ledger where
  outages := l.outages.filter (·.id ≠ id)
  alerts := l.alerts.filter (·.outageId ≠ id)
  outageIds_nodup := l.outageIds_nodup.sublist (List.filter_sublist.map _)
  recordIds_nodup := l.recordIds_nodup.sublist (List.filter_sublist.map _)
  keys_nodup := l.keys_nodup.sublist (List.filter_sublist.map _)
  attached := by
    intro r hr
    obtain ⟨hr, hne⟩ := List.mem_filter.mp hr
    obtain ⟨o, ho, hid⟩ := List.mem_map.mp (l.attached r hr)
    rw [← hid] at hne ⊢
    exact List.mem_map_of_mem (List.mem_filter.mpr ⟨ho, hne⟩)

theorem ext {l m : Ledger} (ho : l.outages = m.outages) (ha : l.alerts = m.alerts) : l = m := by
  cases l
  cases m
  cases ho
  cases ha
  rfl

/-- The second ledger is the first with these outages and these records added at its end. -/
structure Grows (l m : Ledger) (os : List Outage) (rs : List AlertRecord) : Prop where
  outages : m.outages = l.outages ++ os
  alerts : m.alerts = l.alerts ++ rs

/-- No id in the list is borne by an outage or a record, and none occurs twice. -/
structure Fresh (l : Ledger) (ids : List Uuid) : Prop where
  nodup : ids.Nodup
  not_outage : ∀ u ∈ ids, u ∉ l.outageIds
  not_record : ∀ u ∈ ids, u ∉ l.recordIds

namespace Grows

variable {l m n : Ledger} {os os' : List Outage} {rs rs' : List AlertRecord}

theorem refl (l : Ledger) : l.Grows l [] [] :=
  ⟨l.outages.append_nil.symm, l.alerts.append_nil.symm⟩

theorem trans (h : l.Grows m os rs) (h' : m.Grows n os' rs') :
    l.Grows n (os ++ os') (rs ++ rs') := by
  constructor
  · rw [h'.outages, h.outages, List.append_assoc]
  · rw [h'.alerts, h.alerts, List.append_assoc]

theorem outageIds (h : l.Grows m os rs) : m.outageIds = l.outageIds ++ os.map (·.id) := by
  unfold Ledger.outageIds
  rw [h.outages, List.map_append]

theorem recordIds (h : l.Grows m os rs) : m.recordIds = l.recordIds ++ rs.map (·.id) := by
  unfold Ledger.recordIds
  rw [h.alerts, List.map_append]

theorem keys (h : l.Grows m os rs) : m.keys = l.keys ++ rs.map (·.key) := by
  unfold Ledger.keys
  rw [h.alerts, List.map_append]

theorem referents (h : l.Grows m os rs) : m.referents = l.referents ++ rs.map (·.outageId) := by
  unfold Ledger.referents
  rw [h.alerts, List.map_append]

end Grows

theorem grows_addAlert {l : Ledger} {r : AlertRecord} (hkey : r.key ∉ l.keys) (hid : r.id ∉ l.recordIds)
    (houtage : r.outageId ∈ l.outageIds) : l.Grows (l.addAlert r hkey hid houtage) [] [r] :=
  ⟨l.outages.append_nil.symm, rfl⟩

theorem grows_addOutage {l : Ledger} {o : Outage} (h : o.id ∉ l.outageIds) :
    l.Grows (l.addOutage o h) [o] [] :=
  ⟨rfl, l.alerts.append_nil.symm⟩

theorem mem_outageIds_addOutage {l : Ledger} {o : Outage} (h : o.id ∉ l.outageIds) {u : Uuid} :
    u ∈ (l.addOutage o h).outageIds ↔ u ∈ l.outageIds ∨ u = o.id := by
  rw [(grows_addOutage h).outageIds, List.mem_append, List.map_singleton, List.mem_singleton]

section

variable {l : Ledger} {r : AlertRecord} (hkey : r.key ∉ l.keys) (hid : r.id ∉ l.recordIds)
  (houtage : r.outageId ∈ l.outageIds)

theorem mem_recordIds_addAlert {u : Uuid} :
    u ∈ (l.addAlert r hkey hid houtage).recordIds ↔ u ∈ l.recordIds ∨ u = r.id := by
  rw [(grows_addAlert hkey hid houtage).recordIds, List.mem_append, List.map_singleton,
    List.mem_singleton]

theorem mem_keys_addAlert {key : AlertKey} :
    key ∈ (l.addAlert r hkey hid houtage).keys ↔ key ∈ l.keys ∨ key = r.key := by
  rw [(grows_addAlert hkey hid houtage).keys, List.mem_append, List.map_singleton,
    List.mem_singleton]

theorem mem_referents_addAlert {u : Uuid} :
    u ∈ (l.addAlert r hkey hid houtage).referents ↔ u ∈ l.referents ∨ u = r.outageId := by
  rw [(grows_addAlert hkey hid houtage).referents, List.mem_append, List.map_singleton,
    List.mem_singleton]

end

/-! ## Fresh ids -/

section

variable {l m : Ledger} {ids ids' : List Uuid}

theorem Fresh.of_append (h : l.Fresh (ids ++ ids')) : l.Fresh ids :=
  ⟨h.nodup.of_append_left, fun u hu => h.not_outage u (List.mem_append_left _ hu),
    fun u hu => h.not_record u (List.mem_append_left _ hu)⟩

/-- Ids that nothing bears are not borne by what has been added with others. -/
theorem Fresh.grows {os : List Outage} {rs : List AlertRecord}
    (h : l.Fresh (ids ++ ids')) (hgrows : l.Grows m os rs) (hos : ∀ o ∈ os, o.id ∈ ids)
    (hrs : ∀ r ∈ rs, r.id ∈ ids) : m.Fresh ids' := by
  have hdisjoint := List.disjoint_of_nodup_append h.nodup
  refine ⟨h.nodup.of_append_right, fun u hu hm => ?_, fun u hu hm => ?_⟩
  · rw [hgrows.outageIds] at hm
    rcases List.mem_append.mp hm with hm | hm
    · exact h.not_outage u (List.mem_append_right _ hu) hm
    · obtain ⟨o, ho, rfl⟩ := List.mem_map.mp hm
      exact hdisjoint (hos o ho) hu
  · rw [hgrows.recordIds] at hm
    rcases List.mem_append.mp hm with hm | hm
    · exact h.not_record u (List.mem_append_right _ hu) hm
    · obtain ⟨r, hr, rfl⟩ := List.mem_map.mp hm
      exact hdisjoint (hrs r hr) hu

end

/-! ## What the store of a ledger says -/

variable (l : Ledger)

theorem uuid_inj {u v : Uuid} : Cell.uuid u = Cell.uuid v ↔ u = v := by
  unfold Cell.uuid
  rw [Cell.text.injEq, Uuid.toString_inj]

theorem uuid_beq (u v : Uuid) : (Cell.uuid u == Cell.uuid v) = decide (u = v) := by
  rw [Bool.eq_iff_iff, beq_iff_eq, decide_eq_true_iff, uuid_inj]

theorem sourceName_inj {a b : Source} (h : a.name = b.name) : a = b := by
  cases a <;> cases b <;> first | rfl | exact absurd h (by decide)

/-- A row bears an identity exactly if its record does. -/
theorem row_key_beq (r : AlertRecord) (key : AlertKey) :
    (r.row.cell 2 == .text key.externalId && r.row.cell 3 == .text key.source.name) =
      decide (r.key = key) := by
  have h2 : r.row.cell 2 = .text r.key.externalId := rfl
  have h3 : r.row.cell 3 = .text r.key.source.name := rfl
  rw [Bool.eq_iff_iff, h2, h3]
  simp only [Bool.and_eq_true, beq_iff_eq, Cell.text.injEq, decide_eq_true_eq]
  constructor
  · rintro ⟨hid, hname⟩
    cases hk : r.key
    cases key
    rw [hk] at hid hname
    cases hid
    cases sourceName_inj hname
    rfl
  · rintro rfl
    exact ⟨rfl, rfl⟩

theorem hasKey_store (key : AlertKey) : l.store.hasKey key = decide (key ∈ l.keys) := by
  unfold Store.hasKey store
  rw [List.any_map, Bool.eq_iff_iff, List.any_eq_true]
  simp only [Function.comp_apply, row_key_beq, decide_eq_true_eq, keys, List.mem_map]

theorem hasOutage_store (id : Uuid) : l.store.hasOutage id = decide (id ∈ l.outageIds) := by
  unfold Store.hasOutage Store.hasCell store
  rw [List.any_map, Bool.eq_iff_iff, List.any_eq_true]
  have hcell : ∀ o : Outage, o.row.cell 0 = .uuid o.id := fun _ => rfl
  simp only [Function.comp_apply, hcell, uuid_beq, decide_eq_true_eq, outageIds, List.mem_map]

theorem hasCell_alerts_store (id : Uuid) :
    Store.hasCell l.store.alerts 0 (.uuid id) = decide (id ∈ l.recordIds) := by
  unfold Store.hasCell store
  rw [List.any_map, Bool.eq_iff_iff, List.any_eq_true]
  have hcell : ∀ r : AlertRecord, r.row.cell 0 = .uuid r.id := fun _ => rfl
  simp only [Function.comp_apply, hcell, uuid_beq, decide_eq_true_eq, recordIds, List.mem_map]

/-! ## Calls -/

theorem perform_createOutage {o : Outage} (h : o.id ∉ l.outageIds) :
    l.store.perform (.createOutage o) = (.ok (), (l.addOutage o h).store) := by
  have hnew : Store.hasCell l.store.outages 0 (.uuid o.id) = false :=
    (l.hasOutage_store o.id).trans (decide_eq_false h)
  show l.store.replaceBy (l.store.createOutage o) = _
  rw [Store.createOutage_eq, hnew, if_neg (by decide)]
  simp only [Store.replaceBy, store, addOutage, List.map_append, List.map_cons, List.map_nil]

theorem perform_createOutage_of_mem {o : Outage} (h : o.id ∈ l.outageIds) :
    l.store.perform (.createOutage o) =
      (.error (.backend (.notUnique ["outages.id"])), l.store) := by
  have hold : Store.hasCell l.store.outages 0 (.uuid o.id) = true :=
    (l.hasOutage_store o.id).trans (decide_eq_true h)
  show l.store.replaceBy (l.store.createOutage o) = _
  rw [Store.createOutage_eq, hold]
  rfl

theorem perform_createAlert {r : AlertRecord} (hkey : r.key ∉ l.keys) (hid : r.id ∉ l.recordIds)
    (houtage : r.outageId ∈ l.outageIds) :
    l.store.perform (.createAlert r) = (.ok (), (l.addAlert r hkey hid houtage).store) := by
  have hnew : Store.hasCell l.store.outages 0 (.uuid r.outageId) = true :=
    (l.hasOutage_store r.outageId).trans (decide_eq_true houtage)
  show l.store.replaceBy (l.store.createAlert r) = _
  rw [Store.createAlert_eq, hasKey_store, decide_eq_false hkey, hasCell_alerts_store, decide_eq_false hid, hnew,
    if_neg (by decide), if_neg (by decide), if_pos rfl]
  simp only [Store.replaceBy, store, addAlert, List.map_append, List.map_cons, List.map_nil]

/-- A record is added to an outage that has just been added. -/
theorem perform_createAlert_addOutage {o : Outage} {r : AlertRecord} (ho : o.id ∉ l.outageIds)
    (hkey : r.key ∉ l.keys) (hid : r.id ∉ l.recordIds) (h : r.outageId = o.id) :
    ∃ m : Ledger, (l.addOutage o ho).store.perform (.createAlert r) = (.ok (), m.store) ∧
      l.Grows m [o] [r] := by
  have houtage : r.outageId ∈ (l.addOutage o ho).outageIds :=
    (mem_outageIds_addOutage ho).mpr (Or.inr h)
  exact ⟨_, (l.addOutage o ho).perform_createAlert hkey hid houtage, rfl, rfl⟩

theorem perform_createAlert_of_mem {r : AlertRecord} (h : r.key ∈ l.keys) :
    l.store.perform (.createAlert r) = (.error (.duplicate r.key), l.store) := by
  show l.store.replaceBy (l.store.createAlert r) = _
  rw [Store.createAlert_eq, hasKey_store, decide_eq_true h]
  rfl

theorem perform_createAlert_of_recordId_mem {r : AlertRecord} (hkey : r.key ∉ l.keys)
    (h : r.id ∈ l.recordIds) :
    l.store.perform (.createAlert r) =
      (.error (.backend (.notUnique ["alerts.id"])), l.store) := by
  show l.store.replaceBy (l.store.createAlert r) = _
  rw [Store.createAlert_eq, hasKey_store, decide_eq_false hkey, hasCell_alerts_store, decide_eq_true h]
  rfl

theorem perform_createAlert_of_outage_not_mem {r : AlertRecord} (hkey : r.key ∉ l.keys)
    (hid : r.id ∉ l.recordIds) (h : r.outageId ∉ l.outageIds) :
    l.store.perform (.createAlert r) = (.error (.backend .noReferent), l.store) := by
  have hnone : Store.hasCell l.store.outages 0 (.uuid r.outageId) = false :=
    (l.hasOutage_store r.outageId).trans (decide_eq_false h)
  show l.store.replaceBy (l.store.createAlert r) = _
  rw [Store.createAlert_eq, hasKey_store, decide_eq_false hkey, hasCell_alerts_store, decide_eq_false hid, hnone]
  rfl

theorem filter_map_of {α β : Type} {f : α → β} {p : β → Bool} {q : α → Bool}
    (h : ∀ a, p (f a) = q a) (as : List α) : (as.map f).filter p = (as.filter q).map f := by
  rw [List.filter_map]
  congr 1
  exact List.filter_congr fun a _ => h a

theorem store_removeOutage (id : Uuid) : (l.removeOutage id).store = l.store.without id := by
  have houtages : l.store.outages.filter (fun row => row.cell 0 != .uuid id) =
      (l.outages.filter (·.id ≠ id)).map Outage.row := by
    refine filter_map_of (fun o => ?_) l.outages
    have hcell : o.row.cell 0 = .uuid o.id := rfl
    rw [hcell, bne, uuid_beq, decide_not]
  have halerts : l.store.alerts.filter (fun row => row.cell 1 != .uuid id) =
      (l.alerts.filter (·.outageId ≠ id)).map AlertRecord.row := by
    refine filter_map_of (fun r => ?_) l.alerts
    have hcell : r.row.cell 1 = .uuid r.outageId := rfl
    rw [hcell, bne, uuid_beq, decide_not]
  unfold Store.without
  rw [houtages, halerts]
  rfl

/-- There is nothing to remove for an id that no outage has. -/
theorem removeOutage_of_not_mem {id : Uuid} (h : id ∉ l.outageIds) : l.removeOutage id = l := by
  refine ext (List.filter_eq_self.mpr fun o ho => ?_) (List.filter_eq_self.mpr fun r hr => ?_)
  · exact decide_eq_true fun heq => h (heq ▸ List.mem_map_of_mem ho)
  · exact decide_eq_true fun heq => h (heq ▸ l.attached r hr)

theorem perform_deleteOutage (id : Uuid) :
    l.store.perform (.deleteOutage id) =
      (.ok (decide (id ∈ l.outageIds)), (l.removeOutage id).store) := by
  show (Except.ok (l.store.hasOutage id), l.store.deleteOutage id) = _
  unfold Store.deleteOutage
  rw [hasOutage_store]
  by_cases h : id ∈ l.outageIds
  · rw [decide_eq_true h, if_pos rfl, store_removeOutage]
    rfl
  · rw [decide_eq_false h, if_neg (by decide), l.removeOutage_of_not_mem h]

theorem findRow?_store (key : AlertKey) :
    l.store.findRow? key = (l.alerts.find? (·.key = key)).map AlertRecord.row := by
  unfold Store.findRow? store
  rw [List.find?_map]
  congr 2
  funext r
  exact row_key_beq r key

theorem find_of_not_mem {key : AlertKey} (h : key ∉ l.keys) : l.store.find key = .ok none := by
  have hnone : l.alerts.find? (·.key = key) = none := by
    rw [List.find?_eq_none]
    intro r hr hkey
    exact h (of_decide_eq_true hkey ▸ List.mem_map_of_mem hr)
  unfold Store.find
  rw [findRow?_store, hnone]
  rfl

theorem find_of_mem {r : AlertRecord} (h : r ∈ l.alerts) :
    l.store.find r.key = Store.backend ((AlertRecord.ofRow r.row).map some) := by
  unfold Store.find
  rw [findRow?_store, find?_of_nodup l.keys_nodup h]
  rfl

theorem getOutage_of_mem {o : Outage} (h : o ∈ l.outages) :
    l.store.getOutage o.id = Store.backend ((Outage.ofRow o.row).map some) := by
  have hrow : l.store.outages.find? (fun row => row.cell 0 == .uuid o.id) = some o.row := by
    have hcell : (fun row : Row => row.cell 0 == .uuid o.id) ∘ Outage.row = fun p => decide (p.id = o.id) :=
      funext fun p => uuid_beq p.id o.id
    unfold store
    rw [List.find?_map, hcell, find?_of_nodup l.outageIds_nodup h]
    rfl
  unfold Store.getOutage
  rw [hrow]

/-- What the first ledger has is in the second, but for the outages that are gone and their records. -/
structure Spares (gone : Uuid → Bool) (l m : Ledger) : Prop where
  outages : ∀ o ∈ l.outages, gone o.id = false → o ∈ m.outages
  alerts : ∀ r ∈ l.alerts, gone r.outageId = false → r ∈ m.alerts

theorem Grows.spares {l m : Ledger} {os : List Outage} {rs : List AlertRecord} (h : l.Grows m os rs)
    (gone : Uuid → Bool) : Spares gone l m := by
  constructor
  · intro o ho _
    rw [h.outages]
    exact List.mem_append_left os ho
  · intro r hr _
    rw [h.alerts]
    exact List.mem_append_left rs hr

theorem spares_removeOutage (id : Uuid) : Spares (decide <| id = ·) l (l.removeOutage id) := by
  constructor
  · intro o ho hgone
    exact List.mem_filter.mpr ⟨ho, decide_eq_true fun heq => of_decide_eq_false hgone heq.symm⟩
  · intro r hr hgone
    exact List.mem_filter.mpr ⟨hr, decide_eq_true fun heq => of_decide_eq_false hgone heq.symm⟩

/-- A call leaves the store of a ledger behind, with all that the call does not delete. -/
theorem exists_perform (c : StoreCall) :
    ∃ m : Ledger, (l.store.perform c).2 = m.store ∧ Spares c.deletes l m := by
  have hsame : Spares c.deletes l l := (Grows.refl l).spares _
  cases c with
  | find key => exact ⟨l, rfl, hsame⟩
  | createOutage o =>
    by_cases h : o.id ∈ l.outageIds
    · exact ⟨l, by rw [l.perform_createOutage_of_mem h], hsame⟩
    · exact ⟨l.addOutage o h, by rw [l.perform_createOutage h], (grows_addOutage h).spares _⟩
  | deleteOutage id =>
    exact ⟨l.removeOutage id, by rw [l.perform_deleteOutage id], l.spares_removeOutage id⟩
  | createAlert r =>
    by_cases hkey : r.key ∈ l.keys
    · exact ⟨l, by rw [l.perform_createAlert_of_mem hkey], hsame⟩
    · by_cases hid : r.id ∈ l.recordIds
      · exact ⟨l, by rw [l.perform_createAlert_of_recordId_mem hkey hid], hsame⟩
      · by_cases houtage : r.outageId ∈ l.outageIds
        · exact ⟨l.addAlert r hkey hid houtage, by rw [l.perform_createAlert hkey hid houtage],
            (grows_addAlert hkey hid houtage).spares _⟩
        · exact ⟨l, by rw [l.perform_createAlert_of_outage_not_mem hkey hid houtage], hsame⟩

end Ledger

namespace Store

/-- No id in the list is borne by an outage or a record, and none occurs twice. -/
structure Fresh (s : Store) (ids : List Uuid) : Prop where
  nodup : ids.Nodup
  no_outage : ∀ u ∈ ids, s.hasOutage u = false
  no_record : ∀ u ∈ ids, hasCell s.alerts 0 (.uuid u) = false

theorem Fresh.ledger {l : Ledger} {ids : List Uuid} (h : l.store.Fresh ids) : l.Fresh ids := by
  refine ⟨h.nodup, fun u hu => ?_, fun u hu => ?_⟩
  · have h1 := h.no_outage u hu
    rw [Ledger.hasOutage_store] at h1
    exact of_decide_eq_false h1
  · have h1 := h.no_record u hu
    rw [Ledger.hasCell_alerts_store] at h1
    exact of_decide_eq_false h1

/-- A store that calls can make of an empty one. -/
inductive Reachable : Store → Prop
  | empty : Reachable .empty
  | perform {s : Store} (h : Reachable s) (c : StoreCall) : Reachable (s.perform c).2

theorem Reachable.exists_ledger {s : Store} (h : s.Reachable) : ∃ l : Ledger, s = l.store := by
  induction h with
  | empty => exact ⟨.empty, rfl⟩
  | perform _ c ih =>
    obtain ⟨l, rfl⟩ := ih
    obtain ⟨m, hm, -⟩ := l.exists_perform c
    exact ⟨m, hm⟩

end Store

end OutageLedger
