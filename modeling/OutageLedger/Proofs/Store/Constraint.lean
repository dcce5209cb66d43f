import OutageLedger.Store.Basic

/-
  Rows that break constraints. Of an engine it is known which constraints come first (`Report.LastFirst`):
  those on values before references, and of these the one declared last. An outage is then refused for its id
  alone (`createOutage_eq`), and an alert for its identity, its own id and its outage, in this order
  (`createAlertWith_eq`), as the identity is declared last and fails with a code of its own.
-/

namespace OutageLedger

/-! ## Reports -/

/-- The constraints on values come first, from the last one on, and after them come references. -/
structure Constraint.Report.LastFirst (report : Constraint.Report) : Prop where
  nothing : report [] = none
  onValues : ∀ before c after, c.isOnValues = true → (∀ d ∈ after, d.isOnValues = false) →
    report (before ++ c :: after) = some c
  reference : ∀ c, c.isOnValues = false → report [c] = some c

theorem Constraint.lastFirst_lastFirst : Constraint.Report.LastFirst Constraint.lastFirst where
  nothing := rfl
  onValues before c after hc hafter := by
    have hnone : after.reverse.find? isOnValues = none :=
      List.find?_eq_none.mpr fun d hd => by
        rw [hafter d (List.mem_reverse.mp hd)]
        exact Bool.false_ne_true
    unfold lastFirst
    rw [List.reverse_append, List.reverse_cons, List.find?_append, List.find?_append, hnone,
      List.find?_cons_of_pos hc]
    rfl
  reference c hc := by
    unfold lastFirst
    rw [List.reverse_singleton, List.find?_cons_of_neg (by rw [hc]; exact Bool.false_ne_true)]
    rfl

/-! ## Broken constraints -/

namespace Store

variable {s : Store} {rows : List Row}

/-- A row whose cell is not empty has it in common with a row exactly if that row has it too. -/
theorem any_agree_singleton {row : Row} {i : Nat} (h : row.cell i ≠ .null) :
    rows.any (agree [i] row) = hasCell rows i (row.cell i) := by
  unfold hasCell agree
  congr 1
  funext other
  rw [List.all_cons, List.all_nil, Bool.and_true, bne_iff_ne.mpr h, Bool.true_and, Bool.beq_comm]

theorem any_agree_key (r : AlertRecord) : s.alerts.any (agree [2, 3] r.row) = s.hasKey r.key := by
  unfold hasKey agree
  congr 1
  funext row
  have hnumber : r.row.cell 2 = .text r.key.externalId := rfl
  have hname : r.row.cell 3 = .text r.key.source.name := rfl
  rw [List.all_cons, List.all_cons, List.all_nil, Bool.and_true, hnumber, hname, Bool.beq_comm,
    Bool.beq_comm (a := Cell.text r.key.source.name)]
  rfl

/-- The constraints that a record breaks: its own id is that of a record, its outage does not exist, or its
identity is on record. -/
theorem filter_breaks_record (s : Store) (r : AlertRecord) :
    alertTable.constraints.filter (s.breaks s.alerts r.row) =
      (if hasCell s.alerts 0 (.uuid r.id) then [.primaryKey [0]] else []) ++
        (if hasCell s.outages 0 (.uuid r.outageId) then [] else [.reference 1]) ++
          if s.hasKey r.key then [.unique [2, 3]] else [] := by
  have hid : s.breaks s.alerts r.row (.primaryKey [0]) = hasCell s.alerts 0 (.uuid r.id) :=
    any_agree_singleton Cell.noConfusion
  have houtage : s.breaks s.alerts r.row (.reference 1) = !hasCell s.outages 0 (.uuid r.outageId) := rfl
  have hkey : s.breaks s.alerts r.row (.unique [2, 3]) = s.hasKey r.key := any_agree_key r
  show List.filter _ [Constraint.primaryKey [0], .reference 1, .unique [2, 3]] = _
  rw [List.filter_cons, List.filter_cons, List.filter_cons, List.filter_nil, hid, houtage, hkey]
  cases hasCell s.alerts 0 (.uuid r.id) <;> cases hasCell s.outages 0 (.uuid r.outageId) <;>
    cases s.hasKey r.key <;> rfl

/-! ## Insertions -/

theorem createOutage_eq (s : Store) (o : Outage) :
    s.createOutage o =
      if hasCell s.outages 0 (.uuid o.id) then .error (.backend (.notUnique ["outages.id"]))
      else .ok { s with outages := s.outages ++ [o.row] } := by
  have hid : s.breaks s.outages o.row (.primaryKey [0]) = hasCell s.outages 0 (.uuid o.id) :=
    any_agree_singleton Cell.noConfusion
  have hbroken : outageTable.constraints.filter (s.breaks s.outages o.row) =
      if hasCell s.outages 0 (.uuid o.id) then [.primaryKey [0]] else [] := by
    show List.filter _ [Constraint.primaryKey [0]] = _
    rw [List.filter_cons, List.filter_nil, hid]
  unfold createOutage insert
  rw [hbroken]
  cases hasCell s.outages 0 (.uuid o.id) <;> rfl

/-- What is reported of a record: its identity, which is declared last, then its own id, and then its outage. -/
theorem report_breaks_record {report : Constraint.Report} (h : report.LastFirst) (s : Store)
    (r : AlertRecord) :
    report (alertTable.constraints.filter (s.breaks s.alerts r.row)) =
      if s.hasKey r.key then some (.unique [2, 3])
      else if hasCell s.alerts 0 (.uuid r.id) then some (.primaryKey [0])
      else if hasCell s.outages 0 (.uuid r.outageId) then none
      else some (.reference 1) := by
  rw [filter_breaks_record]
  cases s.hasKey r.key with
  | true => exact h.onValues _ _ [] rfl (by simp)
  | false =>
    cases hasCell s.alerts 0 (.uuid r.id) with
    | true =>
      cases hasCell s.outages 0 (.uuid r.outageId) with
      | true => exact h.onValues [] _ [] rfl (by simp)
      | false => exact h.onValues [] _ [.reference 1] rfl (by simp [Constraint.isOnValues, Constraint.columns?])
    | false =>
      cases hasCell s.outages 0 (.uuid r.outageId) with
      | true => exact h.nothing
      | false => exact h.reference _ rfl

theorem createAlertWith_eq {report : Constraint.Report} (h : report.LastFirst) (s : Store) (r : AlertRecord) :
    s.createAlertWith report r =
      if s.hasKey r.key then .error (.duplicate r.key)
      else if hasCell s.alerts 0 (.uuid r.id) then .error (.backend (.notUnique ["alerts.id"]))
      else if hasCell s.outages 0 (.uuid r.outageId) then .ok { s with alerts := s.alerts ++ [r.row] }
      else .error (.backend .noReferent) := by
  unfold createAlertWith insert
  rw [report_breaks_record h]
  cases s.hasKey r.key <;> cases hasCell s.alerts 0 (.uuid r.id) <;>
    cases hasCell s.outages 0 (.uuid r.outageId) <;> rfl

theorem createAlert_eq (s : Store) (r : AlertRecord) :
    s.createAlert r =
      if s.hasKey r.key then .error (.duplicate r.key)
      else if hasCell s.alerts 0 (.uuid r.id) then .error (.backend (.notUnique ["alerts.id"]))
      else if hasCell s.outages 0 (.uuid r.outageId) then .ok { s with alerts := s.alerts ++ [r.row] }
      else .error (.backend .noReferent) :=
  createAlertWith_eq Constraint.lastFirst_lastFirst s r

/-- Any engine of the kind answers alike. -/
theorem createAlertWith_eq_createAlert {report : Constraint.Report} (h : report.LastFirst) (s : Store)
    (r : AlertRecord) : s.createAlertWith report r = s.createAlert r := by
  rw [createAlertWith_eq h, createAlert_eq]

end Store

end OutageLedger
