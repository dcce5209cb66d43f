import OutageLedger.Store.Basic

/-
  The calls on a store, each of which is answered at once and leaves a store behind.
-/

namespace OutageLedger

inductive StoreCall
  | find (key : AlertKey)
  | createOutage (o : Outage)
  | deleteOutage (id : Uuid)
  | createAlert (r : AlertRecord)
  deriving DecidableEq, Repr

/-- What a call is answered with, if it succeeds: the alert that was found, or whether there was an
outage to delete. -/
abbrev StoreCall.Answer : StoreCall → Type
  | find _ => Option AlertRecord
  | deleteOutage _ => Bool
  | createOutage _ | createAlert _ => Unit

namespace Store

/-- The answer to a call that puts another store in the place of this one, unless it fails. -/
def replaceBy (s : Store) : Except StoreError Store → Except StoreError Unit × Store
  | .ok s => (.ok (), s)
  | .error e => (.error e, s)

/-- Performs a call. -/
def perform (s : Store) : (c : StoreCall) → Except StoreError c.Answer × Store
  | .find key => (s.find key, s)
  | .createOutage o => s.replaceBy (s.createOutage o)
  | .deleteOutage id => (.ok (s.hasOutage id), s.deleteOutage id)
  | .createAlert r => s.replaceBy (s.createAlert r)

/-! ## What a call leaves behind -/

/-- A call that fails changes nothing. -/
theorem perform_of_error (s : Store) (c : StoreCall) {e : StoreError}
    (h : (s.perform c).1 = .error e) : (s.perform c).2 = s := by
  cases c with
  | find key => rfl
  | deleteOutage id => cases h
  | createOutage o =>
    simp only [perform] at h ⊢
    cases hs : s.createOutage o with
    | ok s' => rw [hs] at h; cases h
    | error e' => rfl
  | createAlert r =>
    simp only [perform] at h ⊢
    cases hs : s.createAlert r with
    | ok s' => rw [hs] at h; cases h
    | error e' => rfl

end Store

end OutageLedger
