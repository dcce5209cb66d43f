import OutageLedger.Proofs.Store.Ledger
import OutageLedger.Proofs.Store.ReadBack

/-
  Looking up what is on record. A record and an outage are found unless their rows do not read back, which is
  an error (`Ledger.find_record`, `Ledger.get_outage`). For identities this is so as long as rows are only
  added (`Ledger.find_of_mem_keys`, `Ledger.Grows.reads_eq`).
-/

namespace OutageLedger

/-- The answer of a store that reads a row. -/
theorem Store.backend_of_yields {α : Type} {p : Except BackendError α} {a : α} {legible : Bool}
    (h : Yields p a legible) :
    (legible = true → backend (p.map some) = .ok (some a)) ∧
      (legible = false → ∃ e, backend (p.map some) = .error (.backend e)) := by
  constructor
  · intro hlegible
    rw [h.ok hlegible]
    rfl
  · intro hlegible
    obtain ⟨e, he⟩ := h.error hlegible
    exact ⟨e, by rw [he]; rfl⟩

namespace Ledger

variable {l m : Ledger} {key : AlertKey}

theorem find_record {r : AlertRecord} (h : r ∈ l.alerts) :
    (r.isLegible = true → l.store.find r.key = .ok (some r)) ∧
      (r.isLegible = false → ∃ e, l.store.find r.key = .error (.backend e)) := by
  rw [l.find_of_mem h]
  exact Store.backend_of_yields r.yields_row

theorem get_outage {o : Outage} (h : o ∈ l.outages) :
    (o.isLegible = true → l.store.getOutage o.id = .ok (some o)) ∧
      (o.isLegible = false → ∃ e, l.store.getOutage o.id = .error (.backend e)) := by
  rw [l.getOutage_of_mem h]
  exact Store.backend_of_yields o.yields_row

/-- The record with this identity reads back: all its times have years of four digits. -/
def reads (l : Ledger) (key : AlertKey) : Bool :=
  l.alerts.any fun r => r.key = key && r.isLegible

theorem reads_key {r : AlertRecord} (h : r ∈ l.alerts) : l.reads r.key = r.isLegible := by
  unfold reads
  rw [Bool.eq_iff_iff, List.any_eq_true]
  constructor
  · rintro ⟨s, hs, heq⟩
    obtain ⟨hkey, hlegible⟩ := (Bool.and_eq_true _ _).mp heq
    rwa [← List.inj_on_of_nodup_map l.keys_nodup hs h (of_decide_eq_true hkey)]
  · intro hlegible
    exact ⟨r, h, (Bool.and_eq_true _ _).mpr ⟨decide_eq_true rfl, hlegible⟩⟩

/-- What is looked up on record is found, or its row does not read back. -/
theorem find_of_mem_keys (h : key ∈ l.keys) :
    (l.reads key = true ∧ ∃ r ∈ l.alerts, r.key = key ∧ l.store.find key = .ok (some r)) ∨
      (l.reads key = false ∧ ∃ e, l.store.find key = .error e) := by
  obtain ⟨r, hr, rfl⟩ := List.mem_map.mp h
  obtain ⟨hfound, hrefused⟩ := find_record hr
  rw [reads_key hr]
  cases hlegible : r.isLegible with
  | true => exact Or.inl ⟨rfl, r, hr, rfl, hfound hlegible⟩
  | false =>
    obtain ⟨e, he⟩ := hrefused hlegible
    exact Or.inr ⟨rfl, .backend e, he⟩

theorem Grows.reads_eq {os : List Outage} {rs : List AlertRecord} (h : l.Grows m os rs)
    (hkey : key ∈ l.keys) : m.reads key = l.reads key := by
  obtain ⟨r, hr, rfl⟩ := List.mem_map.mp hkey
  have hm : r ∈ m.alerts := by
    rw [h.alerts]
    exact List.mem_append_left rs hr
  rw [reads_key hr, reads_key hm]

end Ledger

end OutageLedger
