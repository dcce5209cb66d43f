import OutageLedger.Config
import OutageLedger.Proofs.Except

/-
  What the environment makes of a configuration. A variable that is set and not empty goes before what the
  configuration says (`overrides_database`, `overrides_settings`), and calls for a section where there is none
  (`isSome_settings?_iff`); it does nothing to the other service (`settings?_of_other`), and nothing more the second
  time (`applyEnvironment_idem`).
-/

namespace OutageLedger.Config

/-- The variable says a text: it is set, and not to the empty one. -/
def Sets (lookup : String → Option String) (name text : String) : Prop :=
  lookup name = some text ∧ text ≠ ""

/-- A value is what a variable says, or as it was before where the variable says nothing. -/
structure Overrides {α : Type} (lookup : String → Option String) (name : String) (ofText : String → α)
    (before after : α) : Prop where
  said : ∀ text, Sets lookup name text → after = ofText text
  unsaid : (∀ text, ¬ Sets lookup name text) → after = before

section

variable {lookup : String → Option String} {name text : String}

theorem nonEmpty_eq_some_iff : nonEmpty lookup name = some text ↔ Sets lookup name text := by
  unfold nonEmpty Sets
  rw [Option.filter_eq_some_iff, decide_eq_true_iff]

theorem nonEmpty_eq_none_iff : nonEmpty lookup name = none ↔ ∀ text, ¬ Sets lookup name text := by
  simp only [Option.eq_none_iff_forall_ne_some, ne_eq, nonEmpty_eq_some_iff]

theorem isSome_nonEmpty_iff : (nonEmpty lookup name).isSome = true ↔ ∃ text, Sets lookup name text := by
  simp only [Option.isSome_iff_exists, nonEmpty_eq_some_iff]

theorem overrides_elim {α : Type} (ofText : String → α) (before : α) :
    Overrides lookup name ofText before ((nonEmpty lookup name).elim before ofText) where
  said text h := by rw [nonEmpty_eq_some_iff.mpr h, Option.elim_some]
  unsaid h := by rw [nonEmpty_eq_none_iff.mpr h, Option.elim_none]

end

/-! ## Sections -/

section

variable {given : Option ProviderSettings} {key url : Option String}

theorem isSome_overrideSection_iff :
    (overrideSection given key url).isSome = true ↔ given.isSome = true ∨ key.isSome = true ∨ url.isSome = true := by
  cases key <;> cases url <;> simp [overrideSection]

theorem overrideSection_eq_some {s : ProviderSettings} (h : overrideSection given key url = some s) :
    s = ⟨key.elim (given.getD .empty).apiKey id, url.elim (given.getD .empty).apiUrl some⟩ := by
  unfold overrideSection at h
  split at h
  · rw [h]
    rfl
  · rw [← Option.some.inj h]
    cases key <;> cases url <;> rfl

theorem overrideSection_idem :
    overrideSection (overrideSection given key url) key url = overrideSection given key url := by
  cases key <;> cases url <;> rfl

end

/-! ## The whole configuration -/

section

variable (c : Config) (lookup : String → Option String) (source : Source)

theorem settings?_applyEnvironment :
    (c.applyEnvironment lookup).settings? source =
      overrideSection (c.settings? source) (nonEmpty lookup (keyVariable source))
        (nonEmpty lookup (urlVariable source)) := by
  cases source <;> rfl

theorem overrides_database :
    Overrides lookup databaseVariable id c.database (c.applyEnvironment lookup).database := by
  have hvalue : (c.applyEnvironment lookup).database = (nonEmpty lookup databaseVariable).elim c.database id := by
    unfold applyEnvironment
    cases nonEmpty lookup databaseVariable <;> rfl
  rw [hvalue]
  exact overrides_elim ..

theorem isSome_settings?_iff :
    ((c.applyEnvironment lookup).settings? source).isSome = true ↔
      (c.settings? source).isSome = true ∨ (∃ text, Sets lookup (keyVariable source) text) ∨
        ∃ text, Sets lookup (urlVariable source) text := by
  rw [settings?_applyEnvironment, isSome_overrideSection_iff, isSome_nonEmpty_iff, isSome_nonEmpty_iff]

variable {c lookup source}

theorem overrides_settings {s : ProviderSettings} (h : (c.applyEnvironment lookup).settings? source = some s) :
    Overrides lookup (keyVariable source) id ((c.settings? source).getD .empty).apiKey s.apiKey ∧
      Overrides lookup (urlVariable source) some ((c.settings? source).getD .empty).apiUrl s.apiUrl := by
  rw [settings?_applyEnvironment] at h
  rw [overrideSection_eq_some h]
  exact ⟨overrides_elim .., overrides_elim ..⟩

/-- The variables of the other service make no difference. -/
theorem settings?_of_other {other : Source} (hother : source ≠ other) {lookup' : String → Option String}
    (h : ∀ name, name ≠ keyVariable other → name ≠ urlVariable other → lookup' name = lookup name) :
    (c.applyEnvironment lookup').settings? source = (c.applyEnvironment lookup).settings? source := by
  have hkey : lookup' (keyVariable source) = lookup (keyVariable source) := by
    apply h <;> cases source <;> cases other <;> first | exact absurd rfl hother | decide
  have hurl : lookup' (urlVariable source) = lookup (urlVariable source) := by
    apply h <;> cases source <;> cases other <;> first | exact absurd rfl hother | decide
  simp only [settings?_applyEnvironment, nonEmpty, hkey, hurl]

end

theorem applyEnvironment_idem (c : Config) (lookup : String → Option String) :
    (c.applyEnvironment lookup).applyEnvironment lookup = c.applyEnvironment lookup := by
  have hdatabase : (nonEmpty lookup databaseVariable).getD ((nonEmpty lookup databaseVariable).getD c.database) =
      (nonEmpty lookup databaseVariable).getD c.database := by
    cases nonEmpty lookup databaseVariable <;> rfl
  unfold applyEnvironment overrideBy
  simp only [overrideSection_idem, hdatabase]

theorem provider_eq_ok_iff {c : Config} {source : Source} {s : ProviderSettings} :
    c.provider source = .ok s ↔ c.settings? source = some s ∧ s.apiKey ≠ "" := by
  unfold provider
  cases c.settings? source with
  | none => simp
  | some given =>
    show (if given.apiKey = "" then Except.error (ConfigError.missingKey source) else .ok given) = .ok s ↔ _
    rw [ite_error_eq_ok_iff, Except.ok.injEq, Option.some.injEq, and_comm]
    exact and_congr_right fun h => by rw [h]

end OutageLedger.Config
