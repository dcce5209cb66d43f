import OutageLedger.Proofs.Store.Ledger
import OutageLedger.Proofs.Store.ReadBack

/-
  Stores that grow. Nothing is asked of the rows that are there: they may have been changed by others, so
  that they do not read back, share an id or bear no identity at all. What is looked up in a store with
  some outages and records added is looked up in the rows that were there first (`find_grown_of_hasKey`,
  `isOk_find_grown`), and ids that no row bears can be added (`Fresh.grown`, `perform_createOutage_of_new`,
  `perform_createAlert_of_new`).
-/

namespace OutageLedger

namespace Store

/-- The store with the rows of some outages and records at the end of its tables. -/
def grown (s : Store) (os : List Outage) (rs : List AlertRecord) : Store :=
  ⟨s.outages ++ os.map Outage.row, s.alerts ++ rs.map AlertRecord.row⟩

variable {s : Store} {os os' : List Outage} {rs rs' : List AlertRecord} {key : AlertKey}

theorem grown_nil (s : Store) : s.grown [] [] = s := by
  unfold grown
  rw [List.map_nil, List.map_nil, List.append_nil, List.append_nil]

theorem grown_grown : (s.grown os rs).grown os' rs' = s.grown (os ++ os') (rs ++ rs') := by
  unfold grown
  rw [List.map_append, List.map_append, List.append_assoc, List.append_assoc]

/-! ## What rows say -/

/-- Rows with an id in a column, after others. -/
theorem hasCell_append_map {α : Type} {row : α → Row} {i : Nat} {id : α → Uuid}
    (h : ∀ a, (row a).cell i = .uuid (id a)) (rows : List Row) (as : List α) (u : Uuid) :
    hasCell (rows ++ as.map row) i (.uuid u) =
      (hasCell rows i (.uuid u) || decide (u ∈ as.map id)) := by
  unfold hasCell
  rw [List.any_append, List.any_map]
  congr 1
  rw [Bool.eq_iff_iff, List.any_eq_true]
  simp only [Function.comp_apply, h, Ledger.uuid_beq, decide_eq_true_eq, List.mem_map]

theorem hasOutage_grown (u : Uuid) :
    (s.grown os rs).hasOutage u = (s.hasOutage u || decide (u ∈ os.map (·.id))) :=
  hasCell_append_map (fun _ => rfl) s.outages os u

theorem hasRecord_grown (u : Uuid) :
    hasCell (s.grown os rs).alerts 0 (.uuid u) =
      (hasCell s.alerts 0 (.uuid u) || decide (u ∈ rs.map (·.id))) :=
  hasCell_append_map (fun _ => rfl) s.alerts rs u

theorem hasReferent_grown (u : Uuid) :
    hasCell (s.grown os rs).alerts 1 (.uuid u) =
      (hasCell s.alerts 1 (.uuid u) || decide (u ∈ rs.map (·.outageId))) :=
  hasCell_append_map (fun _ => rfl) s.alerts rs u

theorem hasKey_grown : (s.grown os rs).hasKey key = (s.hasKey key || decide (key ∈ rs.map (·.key))) := by
  unfold hasKey grown
  rw [List.any_append, List.any_map]
  congr 1
  rw [Bool.eq_iff_iff, List.any_eq_true]
  simp only [Function.comp_apply, Ledger.row_key_beq, decide_eq_true_eq, List.mem_map]

theorem findRow?_grown :
    (s.grown os rs).findRow? key =
      (s.findRow? key).or ((rs.find? (·.key = key)).map AlertRecord.row) := by
  unfold findRow? grown
  rw [List.find?_append, List.find?_map]
  congr 3
  funext r
  exact Ledger.row_key_beq r key

theorem findRow?_isSome : (s.findRow? key).isSome = s.hasKey key :=
  List.isSome_find?

/-- A row that was there is found before any that was added. -/
theorem find_grown_of_hasKey (h : s.hasKey key = true) : (s.grown os rs).find key = s.find key := by
  rw [← findRow?_isSome, Option.isSome_iff_exists] at h
  obtain ⟨row, hrow⟩ := h
  unfold find
  rw [findRow?_grown, hrow]
  rfl

theorem find_of_not_hasKey (h : s.hasKey key = false) : s.find key = .ok none := by
  rw [← findRow?_isSome, Option.isSome_eq_false_iff, Option.isNone_iff_eq_none] at h
  unfold find
  rw [h]

theorem find_of_hasKey (h : s.hasKey key = true) :
    (∃ r, s.find key = .ok (some r)) ∨ ∃ e, s.find key = .error e := by
  rw [← findRow?_isSome, Option.isSome_iff_exists] at h
  obtain ⟨row, hrow⟩ := h
  have hfind : s.find key = backend ((AlertRecord.ofRow row).map some) := by
    unfold find
    rw [hrow]
  rw [hfind]
  cases AlertRecord.ofRow row with
  | ok r => exact Or.inl ⟨r, rfl⟩
  | error e => exact Or.inr ⟨.backend e, rfl⟩

/-- What has been added is looked up without an error if it is legible. -/
theorem isOk_find_grown (h : s.hasKey key = false) :
    ((s.grown os rs).find key).isOk = (rs.find? (·.key = key)).all (·.isLegible) := by
  rw [← findRow?_isSome, Option.isSome_eq_false_iff, Option.isNone_iff_eq_none] at h
  unfold find
  rw [findRow?_grown, h, Option.none_or]
  cases rs.find? (·.key = key) with
  | none => rfl
  | some r =>
    show (backend ((AlertRecord.ofRow r.row).map some)).isOk = r.isLegible
    rw [← r.yields_row.isOk]
    cases AlertRecord.ofRow r.row <;> rfl

/-! ## Additions -/

theorem perform_createOutage_of_new {o : Outage} (h : s.hasOutage o.id = false) :
    s.perform (.createOutage o) = (.ok (), s.grown [o] []) := by
  show s.replaceBy (s.createOutage o) = _
  rw [createOutage_eq, show hasCell s.outages 0 (.uuid o.id) = false from h, if_neg Bool.false_ne_true, grown, List.map_nil,
    List.append_nil]
  rfl

theorem perform_createAlert_of_new {r : AlertRecord} (hkey : s.hasKey r.key = false)
    (hid : hasCell s.alerts 0 (.uuid r.id) = false) (houtage : s.hasOutage r.outageId = true) :
    s.perform (.createAlert r) = (.ok (), s.grown [] [r]) := by
  show s.replaceBy (s.createAlert r) = _
  rw [createAlert_eq, hkey, hid, show hasCell s.outages 0 (.uuid r.outageId) = true from houtage, if_neg Bool.false_ne_true,
    if_neg Bool.false_ne_true, if_pos rfl, grown, List.map_nil, List.append_nil]
  rfl

/-- A record is added to the outage just added, if its id and its identity are new. -/
theorem perform_createAlert_grown {o : Outage} {r : AlertRecord} (hkey : s.hasKey r.key = false)
    (hid : hasCell s.alerts 0 (.uuid r.id) = false) (h : r.outageId = o.id) :
    (s.grown [o] []).perform (.createAlert r) = (.ok (), s.grown [o] [r]) := by
  have hown : r.outageId ∈ [o].map (·.id) := h ▸ List.mem_cons_self
  have houtage : (s.grown [o] []).hasOutage r.outageId = true := by
    rw [hasOutage_grown, decide_eq_true hown, Bool.or_true]
  rw [perform_createAlert_of_new ?_ ?_ houtage, grown_grown]
  · rfl
  · rw [hasKey_grown]
    exact (Bool.or_false _).trans hkey
  · rw [hasRecord_grown]
    exact (Bool.or_false _).trans hid

/-- Ids that no row bears are not borne by what has been added with others. -/
theorem Fresh.grown {ids ids' : List Uuid} (h : s.Fresh (ids ++ ids')) (hos : ∀ o ∈ os, o.id ∈ ids)
    (hrs : ∀ r ∈ rs, r.id ∈ ids) : (s.grown os rs).Fresh ids' := by
  have hdisjoint := List.disjoint_of_nodup_append h.nodup
  refine ⟨h.nodup.of_append_right, fun u hu => ?_, fun u hu => ?_⟩
  · rw [hasOutage_grown, h.no_outage u (List.mem_append_right _ hu), Bool.false_or, decide_eq_false_iff_not]
    intro hmem
    obtain ⟨o, ho, rfl⟩ := List.mem_map.mp hmem
    exact hdisjoint (hos o ho) hu
  · rw [hasRecord_grown, h.no_record u (List.mem_append_right _ hu), Bool.false_or, decide_eq_false_iff_not]
    intro hmem
    obtain ⟨r, hr, rfl⟩ := List.mem_map.mp hmem
    exact hdisjoint (hrs r hr) hu

/-- No id in the list is borne by an outage or a record or is that of an outage a record is attached to,
and none occurs twice. -/
structure Unused (s : Store) (ids : List Uuid) : Prop extends s.Fresh ids where
  no_referent : ∀ u ∈ ids, hasCell s.alerts 1 (.uuid u) = false

theorem Unused.grown {ids ids' : List Uuid} (h : s.Unused (ids ++ ids')) (hos : ∀ o ∈ os, o.id ∈ ids)
    (hrs : ∀ r ∈ rs, r.id ∈ ids ∧ r.outageId ∈ ids) : (s.grown os rs).Unused ids' := by
  refine ⟨h.toFresh.grown hos fun r hr => (hrs r hr).1, fun u hu => ?_⟩
  rw [hasReferent_grown, h.no_referent u (List.mem_append_right _ hu), Bool.false_or, decide_eq_false_iff_not]
  intro hmem
  obtain ⟨r, hr, rfl⟩ := List.mem_map.mp hmem
  exact List.disjoint_of_nodup_append h.nodup (hrs r hr).2 hu

theorem Unused.of_append_right {ids ids' : List Uuid} (h : s.Unused (ids ++ ids')) : s.Unused ids' := by
  rw [← s.grown_nil]
  exact h.grown (fun o ho => absurd ho List.not_mem_nil) fun r hr => absurd hr List.not_mem_nil

/-- Without an outage just added, the store is what it was. -/
theorem deleteOutage_grown {o : Outage} (houtage : s.hasOutage o.id = false)
    (hreferent : hasCell s.alerts 1 (.uuid o.id) = false) :
    (s.grown [o] []).deleteOutage o.id = s := by
  have hown : (s.grown [o] []).hasOutage o.id = true := by
    rw [hasOutage_grown, decide_eq_true (List.mem_map_of_mem List.mem_cons_self), Bool.or_true]
  have hkept : ∀ {rows : List Row} {i : Nat}, hasCell rows i (.uuid o.id) = false →
      rows.filter (fun row => row.cell i != .uuid o.id) = rows := by
    intro rows i h
    refine List.filter_eq_self.mpr fun row hrow => ?_
    have hne := List.any_eq_false.mp h row hrow
    rw [bne, Bool.not_eq_true', Bool.eq_false_iff]
    exact hne
  have hgone : [o.row].filter (fun row => row.cell 0 != .uuid o.id) = [] := by
    refine List.filter_eq_nil_iff.mpr fun row hrow => ?_
    rw [List.mem_singleton.mp hrow, show o.row.cell 0 = .uuid o.id from rfl, bne_self_eq_false]
    exact Bool.false_ne_true
  unfold deleteOutage
  rw [hown, if_pos rfl, grown, List.filter_append, hkept houtage, List.map_singleton, hgone, List.map_nil,
    List.append_nil, List.append_nil, hkept hreferent]

theorem Fresh.of_append {ids ids' : List Uuid} (h : s.Fresh (ids ++ ids')) : s.Fresh ids :=
  ⟨h.nodup.of_append_left, fun u hu => h.no_outage u (List.mem_append_left _ hu),
    fun u hu => h.no_record u (List.mem_append_left _ hu)⟩

theorem Unused.of_append_left {ids ids' : List Uuid} (h : s.Unused (ids ++ ids')) : s.Unused ids :=
  ⟨h.toFresh.of_append, fun u hu => h.no_referent u (List.mem_append_left _ hu)⟩

end Store

/-! ## Ledgers -/

namespace Ledger

variable {l m : Ledger}

theorem Grows.store {os : List Outage} {rs : List AlertRecord} (h : l.Grows m os rs) :
    m.store = l.store.grown os rs := by
  unfold Ledger.store Store.grown
  rw [h.outages, h.alerts, List.map_append, List.map_append]

theorem Fresh.store {ids : List Uuid} (h : l.Fresh ids) : l.store.Fresh ids :=
  ⟨h.nodup, fun u hu => (l.hasOutage_store u).trans (decide_eq_false (h.not_outage u hu)),
    fun u hu => (l.hasCell_alerts_store u).trans (decide_eq_false (h.not_record u hu))⟩

end Ledger

end OutageLedger
