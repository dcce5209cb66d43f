import OutageLedger.Proofs.Store.History

/-
  What is on record after a history. An act adds the record that it is to create, if that is taken, and takes
  out the records of an outage that it clears; nothing else changes (`OpenStore.exists_ledger_mem_act`). So the
  records of a store that began empty are those that were taken and whose outage was not cleared since
  (`OpenStore.exists_ledger_kept`). Main statement: `duplicates_known_by_identity`, a record is refused as a
  duplicate exactly if one with its identity is on record, whatever other constraints it breaks. Of the engine
  it takes that it reports the constraint on values that was declared last (`Constraint.Report.LastFirst`).
-/

namespace OutageLedger

theorem Store.perform_createAlert_fst (s : Store) (r : AlertRecord) :
    (s.perform (.createAlert r)).1 = (s.createAlert r).map fun _ => () := by
  show (s.replaceBy (s.createAlert r)).1 = _
  cases s.createAlert r <;> rfl

namespace Ledger

/-- A record is only refused as a duplicate for its identity, and always if that is on record. -/
theorem createAlert_duplicate_iff (l : Ledger) {r : AlertRecord} {key : AlertKey} :
    (l.store.perform (.createAlert r)).1 = .error (.duplicate key) ↔ key = r.key ∧ r.key ∈ l.keys := by
  by_cases hkey : r.key ∈ l.keys
  · rw [l.perform_createAlert_of_mem hkey]
    constructor
    · intro h
      cases h
      exact ⟨rfl, hkey⟩
    · rintro ⟨rfl, -⟩
      rfl
  refine iff_of_false (fun h => ?_) fun h => hkey h.2
  by_cases hid : r.id ∈ l.recordIds
  · rw [l.perform_createAlert_of_recordId_mem hkey hid] at h
    cases h
  by_cases houtage : r.outageId ∈ l.outageIds
  · rw [l.perform_createAlert hkey hid houtage] at h
    cases h
  · rw [l.perform_createAlert_of_outage_not_mem hkey hid houtage] at h
    cases h

end Ledger

namespace OpenStore

/-- The record was taken in the course of the acts, and its outage has not been cleared since. -/
def Keeps (s : OpenStore) (acts : List StoreAct) (r : AlertRecord) : Prop :=
  ∃ earlier later, acts = earlier ++ .call (.createAlert r) :: later ∧
    ((s.after earlier).perform (.createAlert r)).1 = .ok () ∧
      later.any (·.clears s.address r.outageId) = false

variable {a : StoreAddress} {s : OpenStore} {x : StoreAct} {acts : List StoreAct} {r : AlertRecord}

theorem Keeps.mem_acts (h : s.Keeps acts r) : .call (.createAlert r) ∈ acts := by
  obtain ⟨earlier, later, rfl, -⟩ := h
  exact List.mem_append_right _ List.mem_cons_self

theorem not_keeps_nil : ¬ s.Keeps [] r :=
  fun h => List.not_mem_nil h.mem_acts

theorem address_of_reopen {s' : OpenStore} (h : s.reopen = .ok s') : s'.address = s.address := by
  unfold reopen at h
  simp only [Except.map] at h
  split at h
  · cases h
  · cases h
    rfl

theorem address_act (s : OpenStore) (x : StoreAct) : (s.act x).address = s.address := by
  cases x with
  | call c =>
    show (s.perform c).2.address = s.address
    unfold perform
    split <;> rfl
  | reopen =>
    unfold act
    cases h : s.reopen with
    | ok s' => exact address_of_reopen h
    | error e => rfl

/-- What is kept is kept from the first act on, or from a later one. -/
theorem keeps_cons : s.Keeps (x :: acts) r ↔
    (x = .call (.createAlert r) ∧ (s.perform (.createAlert r)).1 = .ok () ∧
      acts.any (·.clears s.address r.outageId) = false) ∨ (s.act x).Keeps acts r := by
  constructor
  · rintro ⟨earlier, later, heq, hok, hkept⟩
    cases earlier with
    | nil =>
      obtain ⟨rfl, rfl⟩ := List.cons.inj heq
      exact Or.inl ⟨rfl, hok, hkept⟩
    | cons y earlier =>
      obtain ⟨rfl, rfl⟩ := List.cons.inj heq
      exact Or.inr ⟨earlier, later, rfl, hok, by rw [address_act]; exact hkept⟩
  · rintro (⟨rfl, hok, hkept⟩ | ⟨earlier, later, rfl, hok, hkept⟩)
    · exact ⟨[], acts, rfl, hok, hkept⟩
    · exact ⟨x :: earlier, later, rfl, hok, by rw [address_act] at hkept; exact hkept⟩

/-- What an act does to the records: it takes those out whose outage it clears, and adds the one that it is to
create if that is taken. -/
theorem exists_ledger_mem_act (h : a.isWritable = true) (l : Ledger) (x : StoreAct) :
    ∃ m : Ledger, (OpenStore.mk a l.store).act x = ⟨a, m.store⟩ ∧
      ∀ r, r ∈ m.alerts ↔ (r ∈ l.alerts ∧ x.clears a r.outageId = false) ∨
        (x = .call (.createAlert r) ∧ ((OpenStore.mk a l.store).perform (.createAlert r)).1 = .ok ()) := by
  have hcall : ∀ c, (OpenStore.mk a l.store).act (.call c) = ⟨a, (l.store.perform c).2⟩ := by
    intro c
    show ((OpenStore.mk a l.store).perform c).2 = _
    rw [perform_of_isWritable h]
  cases x with
  | call c =>
    rw [hcall]
    cases c with
    | find key => exact ⟨l, rfl, fun r => by simp [StoreAct.clears, StoreCall.deletes]⟩
    | createOutage o =>
      by_cases hid : o.id ∈ l.outageIds
      · refine ⟨l, by rw [l.perform_createOutage_of_mem hid], fun r => ?_⟩
        simp [StoreAct.clears, StoreCall.deletes]
      · refine ⟨l.addOutage o hid, by rw [l.perform_createOutage hid], fun r => ?_⟩
        simp [StoreAct.clears, StoreCall.deletes, Ledger.addOutage]
    | deleteOutage id =>
      refine ⟨l.removeOutage id, by rw [l.perform_deleteOutage], fun r => ?_⟩
      simp [StoreAct.clears, StoreCall.deletes, Ledger.removeOutage, @eq_comm _ id]
    | createAlert r' =>
      cases hanswer : (l.store.perform (.createAlert r')).1 with
      | ok _ =>
        obtain ⟨m, hm, hgrows⟩ := l.exists_of_createAlert_ok hanswer
        refine ⟨m, by rw [hm], fun r => ?_⟩
        have hadded : ((OpenStore.mk a l.store).perform (.createAlert r')).1 = .ok () := by
          rw [perform_of_isWritable h]
          exact hanswer
        rw [hgrows.alerts, List.mem_append, List.mem_singleton]
        constructor
        · rintro (hr | rfl)
          · exact Or.inl ⟨hr, rfl⟩
          · exact Or.inr ⟨rfl, hadded⟩
        · rintro (⟨hr, -⟩ | ⟨heq, -⟩)
          · exact Or.inl hr
          · cases heq
            exact Or.inr rfl
      | error e =>
        refine ⟨l, by rw [l.store.perform_of_error _ hanswer], fun r => ?_⟩
        constructor
        · intro hr
          exact Or.inl ⟨hr, rfl⟩
        · rintro (⟨hr, -⟩ | ⟨heq, hadded⟩)
          · exact hr
          · cases heq
            rw [perform_of_isWritable h, hanswer] at hadded
            cases hadded
  | reopen =>
    cases hpath : a.path with
    | some path =>
      refine ⟨l, ?_, fun r => by simp [StoreAct.clears, hpath]⟩
      unfold act
      rw [reopen_of_path hpath l.isShaped_store]
    | none =>
      refine ⟨.empty, ?_, fun r => by simp [StoreAct.clears, hpath, Ledger.empty]⟩
      unfold act
      rw [reopen_of_no_path h hpath]
      rfl

/-- After a history, the records are those from before that no act has cleared, and those that the history
keeps. -/
theorem exists_ledger_keeps (h : a.isWritable = true) (l : Ledger) (acts : List StoreAct) :
    ∃ m : Ledger, (OpenStore.mk a l.store).after acts = ⟨a, m.store⟩ ∧
      ∀ r, r ∈ m.alerts ↔ (r ∈ l.alerts ∧ acts.any (·.clears a r.outageId) = false) ∨
        (OpenStore.mk a l.store).Keeps acts r := by
  induction acts generalizing l with
  | nil => exact ⟨l, rfl, fun r => by simp [not_keeps_nil]⟩
  | cons x acts ih =>
    obtain ⟨m, hm, hstep⟩ := exists_ledger_mem_act h l x
    obtain ⟨n, hn, hrun⟩ := ih m
    refine ⟨n, ?_, fun r => ?_⟩
    · show ((OpenStore.mk a l.store).act x).after acts = _
      rw [hm, hn]
    · rw [hrun, hstep, keeps_cons, hm, List.any_cons, Bool.or_eq_false_iff]
      tauto

/-- What is on record in a store that began empty. -/
theorem exists_ledger_kept (h : a.isWritable = true) (acts : List StoreAct) :
    ∃ l : Ledger, (OpenStore.mk a .empty).after acts = ⟨a, l.store⟩ ∧
      ∀ r, r ∈ l.alerts ↔ (OpenStore.mk a .empty).Keeps acts r := by
  obtain ⟨l, hl, hkeeps⟩ := exists_ledger_keeps h .empty acts
  refine ⟨l, hl, fun r => (hkeeps r).trans (or_iff_right ?_)⟩
  exact fun hr => absurd hr.1 List.not_mem_nil

end OpenStore

/-- After any history of a new store, a record is refused as a duplicate exactly if a record with its identity
is on record, that is, one that was taken and whose outage has not been deleted since. Whether its own id or its
outage would speak against it does not matter, on any engine that reports the constraints on values before
references, and of these the one declared last. -/
theorem duplicates_known_by_identity {report : Constraint.Report} (hreport : report.LastFirst)
    {a : StoreAddress} {room : Bool} {s₀ : Store} (hnew : a.fresh room = .ok s₀) (acts : List StoreAct)
    (r : AlertRecord) :
    let s := (OpenStore.mk a s₀).after acts
    (s.perform (.createAlert r)).1 = (s.store.createAlertWith report r).map (fun _ => ()) ∧
      (∀ key, (s.perform (.createAlert r)).1 = .error (.duplicate key) ↔
        key = r.key ∧ r.key.cells ∈ s.store.keys) ∧
      (r.key.cells ∈ s.store.keys ↔ ∃ p, (OpenStore.mk a s₀).Keeps acts p ∧ p.key = r.key) := by
  intro s
  obtain ⟨hwritable, rfl⟩ := StoreAddress.fresh_of_ok hnew
  obtain ⟨l, hl, hkept⟩ := OpenStore.exists_ledger_kept hwritable acts
  rw [show s = ⟨a, l.store⟩ from hl, OpenStore.perform_of_isWritable hwritable]
  refine ⟨?_, ?_, ?_⟩
  · rw [Store.createAlertWith_eq_createAlert hreport]
    exact Store.perform_createAlert_fst _ _
  · intro key
    rw [l.mem_keys_store]
    exact l.createAlert_duplicate_iff
  · rw [l.mem_keys_store]
    unfold Ledger.keys
    rw [List.mem_map]
    apply exists_congr
    intro p
    rw [hkept p]

namespace Sample

/-- The history of two outages, and the first of them deleted with its record. -/
def actsThenDeletion : List StoreAct :=
  acts ++ [.call (.deleteOutage (uuid 1))]

/-- The record of the first outage again, on an outage that there is not. -/
def recordAgain : AlertRecord :=
  record 3 9

end Sample

/-- Of three constraints that a record breaks the one on its identity is reported, until that is gone with its
outage. -/
theorem duplicates_known_by_identity_of_three :
    alertTable.constraints.filter (Sample.opened.store.breaks Sample.opened.store.alerts Sample.recordAgain.row) =
        alertTable.constraints ∧
      (Sample.opened.store.createAlertWith Constraint.lastFirst Sample.recordAgain).map (fun _ => ()) =
        .error (.duplicate (Sample.record 3 1).key) ∧
      (Sample.opened.perform (.createAlert Sample.recordAgain)).1 =
        .error (.duplicate (Sample.record 3 1).key) ∧
      (((OpenStore.mk Sample.address .empty).after Sample.actsThenDeletion).perform
        (.createAlert Sample.recordAgain)).1 ≠ .error (.duplicate (Sample.record 3 1).key) := by
  have hnew : Sample.address.fresh true = .ok .empty := rfl
  obtain ⟨hreported, hduplicate, hkeys⟩ :=
    duplicates_known_by_identity Constraint.lastFirst_lastFirst hnew Sample.acts Sample.recordAgain
  have hrefused : (Sample.opened.perform (.createAlert Sample.recordAgain)).1 =
      .error (.duplicate (Sample.record 3 1).key) := by
    apply (hduplicate _).mpr
    refine ⟨rfl, hkeys.mpr ⟨Sample.record 3 1, ⟨Sample.acts.take 2, Sample.acts.drop 3, rfl, rfl, ?_⟩, rfl⟩⟩
    decide +kernel
  refine ⟨by decide +kernel, hreported.symm.trans hrefused, hrefused, fun h => ?_⟩
  obtain ⟨-, hgone, -⟩ :=
    duplicates_known_by_identity Constraint.lastFirst_lastFirst hnew Sample.actsThenDeletion Sample.recordAgain
  exact absurd ((hgone _).mp h).2 (by decide +kernel)

end OutageLedger
