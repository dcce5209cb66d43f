/-
  Steps that can fail: what it takes for them to succeed.
-/

namespace OutageLedger

variable {α β ε ε' : Type} {a : α} {b : β}

theorem bind_eq_ok_iff {x : Except ε α} {f : α → Except ε β} :
    x >>= f = .ok b ↔ ∃ a, x = .ok a ∧ f a = .ok b := by
  cases x <;> simp [bind, Except.bind]

/-- What is only done unless an error is reported. -/
theorem ite_error_eq_ok_iff {p : Prop} [Decidable p] {e : ε} {y : Except ε β} :
    (if p then .error e else y) = .ok b ↔ ¬ p ∧ y = .ok b := by
  split <;> simp_all

theorem mapError_eq_ok_iff {x : Except ε α} {f : ε → ε'} : x.mapError f = .ok a ↔ x = .ok a := by
  cases x with
  | error e => exact ⟨nofun, nofun⟩
  | ok a' => exact ⟨fun h => congrArg _ (Except.ok.inj h), fun h => congrArg _ (Except.ok.inj h)⟩

theorem toOption_eq_some_iff {x : Except ε α} : x.toOption = some a ↔ x = .ok a := by
  cases x with
  | error e => exact ⟨nofun, nofun⟩
  | ok a' => exact ⟨fun h => congrArg _ (Option.some.inj h), fun h => congrArg _ (Except.ok.inj h)⟩

end OutageLedger
