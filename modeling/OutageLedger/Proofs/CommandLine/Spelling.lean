import Mathlib.Data.List.Infix
import OutageLedger.CommandLine.Reader
import OutageLedger.Proofs.Except

/-
  The spelling of command lines. A flag that takes a value stands in one argument with it or in the argument before
  it, any other flag stands alone, and two hyphens may end the line (`Spells`). Main statements: `readFrom_eq`, what
  spells items is read as these are taken in one after the other, `readFrom_eq_ok_iff`, nothing else is read, and
  `Spells.isOn_iff` and `Spells.isSet_iff`, the items that are spelled are those that a look at the arguments finds.
-/

namespace OutageLedger

open UsageError (flagText)

/-! ## Single arguments -/

/-- An argument that can be a value by itself: it begins with no hyphen, or is nothing more than one. -/
def IsPlain (s : String) : Prop :=
  ∀ c cs, s.toList ≠ '-' :: c :: cs

namespace Argument

theorem ofText_flagText (flag : Flag) : ofText (flagText flag) = .long flag.name none := by
  cases flag <;> rfl

theorem ofText_setting (flag : Flag) (value : String) :
    ofText (flagText flag ++ "=" ++ value) = .long flag.name (some value) := by
  cases flag <;> simp [ofText, flagText, Flag.name]

theorem eq_of_ofText_stop {s : String} (h : ofText s = .stop) : s = "--" := by
  unfold ofText at h
  split at h
  · rename_i hs
    exact String.ext hs
  · split at h <;> cases h
  · cases h
  · cases h

theorem eq_of_ofText_long {s name : String} (h : ofText s = .long name none) : s = "--" ++ name := by
  unfold ofText at h
  split at h
  · cases h
  · split at h
    · rename_i hs _ _
      cases h
      apply String.ext
      simp [hs]
    · cases h
  · cases h
  · cases h

theorem eq_of_ofText_setting {s name value : String} (h : ofText s = .long name (some value)) :
    s = "--" ++ name ++ "=" ++ value := by
  unfold ofText at h
  split at h
  · cases h
  · rename_i cs _ hs
    split at h
    · cases h
    · rename_i c rest hrest
      cases h
      have hc : c = '=' := by
        have hhead := List.head?_dropWhile_not (· != '=') cs
        simpa [hrest] using hhead
      have hcs := List.takeWhile_append_dropWhile (p := (· != '=')) (l := cs)
      rw [hrest, hc] at hcs
      apply String.ext
      rw [hs]
      simp [hcs]
  · cases h
  · cases h

theorem ofText_eq_plain_iff {s value : String} : ofText s = .plain value ↔ value = s ∧ IsPlain s := by
  unfold ofText IsPlain
  split
  · simp_all
  · split <;> simp_all
  · simp_all
  · rename_i hshort
    constructor
    · intro h
      cases h
      exact ⟨rfl, hshort⟩
    · rintro ⟨rfl, -⟩
      rfl

end Argument

/-! ## Arguments of flags -/

theorem Flag.ofName?_eq_some_iff {name : String} {flag : Flag} : ofName? name = some flag ↔ flag.name = name := by
  constructor
  · intro h
    simpa using List.find?_some h
  · rintro rfl
    cases flag <;> rfl

theorem Flag.name_inj {flag flag' : Flag} (h : flag.name = flag'.name) : flag = flag' :=
  Option.some.inj ((ofName?_eq_some_iff.mpr h).symm.trans (ofName?_eq_some_iff.mpr rfl))

section

variable {flag flag' : Flag} {value value' : String}

theorem flagText_inj (h : flagText flag = flagText flag') : flag = flag' := by
  have hshape := congrArg Argument.ofText h
  rw [Argument.ofText_flagText, Argument.ofText_flagText, Argument.long.injEq] at hshape
  exact Flag.name_inj hshape.1

theorem setting_inj (h : flagText flag ++ "=" ++ value = flagText flag' ++ "=" ++ value') :
    flag = flag' ∧ value = value' := by
  have hshape := congrArg Argument.ofText h
  rw [Argument.ofText_setting, Argument.ofText_setting, Argument.long.injEq, Option.some.injEq] at hshape
  exact ⟨Flag.name_inj hshape.1, hshape.2⟩

theorem flagText_ne_setting (flag flag' : Flag) (value : String) :
    flagText flag ≠ flagText flag' ++ "=" ++ value := by
  intro h
  have hshape := congrArg Argument.ofText h
  rw [Argument.ofText_flagText, Argument.ofText_setting, Argument.long.injEq] at hshape
  exact Option.some_ne_none value hshape.2.symm

/-- A flag is no value. -/
theorem flagText_ne_plain (hvalue : IsPlain value) (flag : Flag) : flagText flag ≠ value := by
  rintro rfl
  have hshape := Argument.ofText_eq_plain_iff.mpr ⟨rfl, hvalue⟩
  rw [Argument.ofText_flagText] at hshape
  exact Argument.noConfusion hshape

/-- A flag with its value in one argument is no value. -/
theorem setting_ne_plain (hvalue : IsPlain value) (flag : Flag) (value' : String) :
    flagText flag ++ "=" ++ value' ≠ value := by
  rintro rfl
  have hshape := Argument.ofText_eq_plain_iff.mpr ⟨rfl, hvalue⟩
  rw [Argument.ofText_setting] at hshape
  exact Argument.noConfusion hshape

end

/-! ## Whole command lines -/

namespace CommandLine

/-- What a command line says of one flag. -/
inductive Item
  | switch (flag : Flag)
  | setting (flag : Flag) (value : String)

def Item.flag : Item → Flag
  | switch flag => flag
  | setting flag _ => flag

/-- The arguments spell the item. -/
inductive Item.Spelled : Item → List String → Prop
  | switch {flag : Flag} (hflag : flag.isSwitch = true) : Spelled (.switch flag) [flagText flag]
  | joined {flag : Flag} (hflag : flag.isSwitch = false) (value : String) :
      Spelled (.setting flag value) [flagText flag ++ "=" ++ value]
  | apart {flag : Flag} {value : String} (hflag : flag.isSwitch = false) (hvalue : IsPlain value) :
      Spelled (.setting flag value) [flagText flag, value]

/-- The arguments spell the items, one after the other. -/
inductive Spells : List String → List Item → Prop
  | nil : Spells [] []
  | stop : Spells ["--"] []
  | cons {item : Item} {word arguments : List String} {items : List Item} (hitem : item.Spelled word)
      (hrest : Spells arguments items) : Spells (word ++ arguments) (item :: items)

end CommandLine

open CommandLine (Item Spells)

namespace Given

/-- Takes in an item. -/
def take (g : Given) : Item → Except UsageError Given
  | .switch flag => g.switchOn flag
  | .setting flag value => g.assign flag value

variable {g g' : Given} {flag : Flag} {value : String} {arguments : List String}

/-- A value that has been read is taken in before anything else. -/
theorem readFrom_some_eq_ok_iff :
    g.readFrom (some ⟨flag, some value⟩) arguments = .ok g' ↔
      ∃ h, g.assign flag value = .ok h ∧ h.readFrom .none arguments = .ok g' := by
  cases arguments with
  | nil => simp [readFrom, settle]
  | cons s rest =>
    simp only [readFrom.eq_def _ _ (s :: rest)]
    split
    · split <;> simp [settle]
    · split
      · simp
      · split <;> simp [settle, bind_eq_ok_iff]
      · split <;> simp [settle, bind_eq_ok_iff]
    · split <;> simp [settle, bind_eq_ok_iff]
    · simp

/-- What spells an item is taken in after a value that waits: at once, or, where its value is an argument of its own,
after that has waited in turn. -/
theorem readFrom_append {item : Item} {word : List String} (hitem : item.Spelled word) (g : Given)
    (pending : Option Pending) (arguments : List String) :
    (g.readFrom pending (word ++ arguments) =
      g.settle pending >>= fun h => h.take item >>= fun k => k.readFrom .none arguments) ∨
    ∃ flag value, item = .setting flag value ∧ g.readFrom pending (word ++ arguments) =
      g.settle pending >>= fun h => h.readFrom (some ⟨flag, some value⟩) arguments := by
  cases hitem with
  | @switch flag hflag =>
    have hname := Flag.ofName?_eq_some_iff.mpr (Eq.refl flag.name)
    left
    rw [List.singleton_append, readFrom.eq_def]
    simp only [Argument.ofText_flagText, hname, hflag, if_true]
    rfl
  | @joined flag hflag value =>
    have hname := Flag.ofName?_eq_some_iff.mpr (Eq.refl flag.name)
    left
    rw [List.singleton_append, readFrom.eq_def]
    simp only [Argument.ofText_setting, hname, hflag, Bool.false_eq_true, if_false]
    rfl
  | @apart flag value hflag hvalue =>
    have hname := Flag.ofName?_eq_some_iff.mpr (Eq.refl flag.name)
    have hplain := Argument.ofText_eq_plain_iff.mpr ⟨Eq.refl value, hvalue⟩
    have hwait : ∀ h : Given, h.readFrom (some ⟨flag, .none⟩) (value :: arguments) =
        h.readFrom (some ⟨flag, some value⟩) arguments := by
      intro h
      rw [readFrom.eq_def]
      simp only [hplain]
    right
    refine ⟨flag, value, rfl, ?_⟩
    rw [List.cons_append, List.singleton_append, readFrom.eq_def]
    simp only [Argument.ofText_flagText, hname, hflag, Bool.false_eq_true, if_false, hwait]

/-- What spells an item is taken in first. -/
theorem readFrom_append_eq_ok_iff {item : Item} {word : List String} (hitem : item.Spelled word) :
    g.readFrom .none (word ++ arguments) = .ok g' ↔
      ∃ h, g.take item = .ok h ∧ h.readFrom .none arguments = .ok g' := by
  rcases readFrom_append hitem g .none arguments with heq | ⟨flag, value, rfl, heq⟩
  · simp only [heq, settle, bind_eq_ok_iff, Except.ok.injEq, exists_eq_left']
  · simp only [heq, settle, bind_eq_ok_iff, Except.ok.injEq, exists_eq_left']
    exact readFrom_some_eq_ok_iff

/-- A value has to follow the flag that waits for it. -/
theorem exists_value_of_readFrom (h : g.readFrom (some ⟨flag, .none⟩) arguments = .ok g') :
    ∃ value rest, arguments = value :: rest ∧ IsPlain value := by
  cases arguments with
  | nil => simp [readFrom, settle] at h
  | cons s rest =>
    simp only [readFrom.eq_def _ _ (s :: rest)] at h
    split at h
    · split at h <;> simp [settle] at h
    · split at h
      · simp at h
      · split at h <;> simp [settle, bind_eq_ok_iff] at h
      · split at h <;> simp [settle, bind_eq_ok_iff] at h
    · split at h <;> simp [settle, bind_eq_ok_iff] at h
    · rename_i hplain
      exact ⟨s, rest, rfl, (Argument.ofText_eq_plain_iff.mp hplain).2⟩

/-- What is read begins with what spells an item, unless it is at its end. -/
theorem exists_item_of_readFrom (h : g.readFrom .none arguments = .ok g') :
    arguments = [] ∨ arguments = ["--"] ∨
      ∃ (item : Item) (word rest : List String), item.Spelled word ∧ word ≠ [] ∧ arguments = word ++ rest := by
  cases arguments with
  | nil => exact Or.inl rfl
  | cons s rest =>
    refine Or.inr ?_
    simp only [readFrom.eq_def _ _ (s :: rest)] at h
    split at h
    · rename_i hstop
      split at h
      · exact Or.inl (by rw [Argument.eq_of_ofText_stop hstop])
      · cases h
    · rename_i name value hlong
      refine Or.inr ?_
      split at h
      · cases h
      · rename_i flag hname
        have hs : s = flagText flag := by
          rw [Argument.eq_of_ofText_long hlong, ← Flag.ofName?_eq_some_iff.mp hname]
          rfl
        split at h
        · rename_i hswitch
          exact ⟨_, _, rest, .switch hswitch, by simp, by rw [hs, List.singleton_append]⟩
        · rename_i hswitch
          simp only [settle, bind_eq_ok_iff, Except.ok.injEq, exists_eq_left'] at h
          obtain ⟨value, rest', rfl, hvalue⟩ := exists_value_of_readFrom h
          exact ⟨_, _, rest', .apart (Bool.eq_false_iff.mpr hswitch) hvalue, by simp, by rw [hs]; rfl⟩
      · rename_i flag value hname
        have hs : s = flagText flag ++ "=" ++ value := by
          rw [Argument.eq_of_ofText_setting hlong, ← Flag.ofName?_eq_some_iff.mp hname]
          rfl
        split at h
        · cases h
        · rename_i hswitch
          exact ⟨_, _, rest, .joined (Bool.eq_false_iff.mpr hswitch) value, by simp,
            by rw [hs, List.singleton_append]⟩
    · split at h
      · simp [settle, switchOn, bind_eq_ok_iff] at h
      · cases h
    · simp at h

/-- What spells items is read as these are taken in, one after the other, whatever comes of it; a value that waits is
taken in before them. -/
theorem readFrom_eq {items : List Item} (h : Spells arguments items) (g : Given) (pending : Option Pending) :
    g.readFrom pending arguments = g.settle pending >>= items.foldlM take := by
  induction h generalizing g pending with
  | nil => exact (bind_pure _).symm
  | stop => exact (bind_pure _).symm
  | @cons item word arguments items hitem _ ih =>
    rcases readFrom_append hitem g pending arguments with heq | ⟨flag, value, rfl, heq⟩
    · rw [heq]
      exact bind_congr fun h => bind_congr fun k => ih k .none
    · rw [heq]
      exact bind_congr fun h => ih h (some ⟨flag, some value⟩)

/-- The reader takes exactly the arguments that spell items which can be taken in one after the other. -/
theorem readFrom_eq_ok_iff :
    g.readFrom .none arguments = .ok g' ↔ ∃ items, Spells arguments items ∧ items.foldlM take g = .ok g' := by
  constructor
  · -- on the number of arguments, of which an item may take up two
    intro h
    induction hlength : arguments.length using Nat.strongRecOn generalizing g arguments with
    | ind n ih =>
      rcases exists_item_of_readFrom h with rfl | rfl | ⟨item, word, rest, hitem, hword, rfl⟩
      · exact ⟨[], .nil, h⟩
      · exact ⟨[], .stop, h⟩
      · obtain ⟨k, htake, hread⟩ := (readFrom_append_eq_ok_iff hitem).mp h
        have hshorter : rest.length < n := by
          have := List.length_pos_iff.mpr hword
          rw [List.length_append] at hlength
          omega
        obtain ⟨items, hspells, htaken⟩ := ih _ hshorter hread rfl
        refine ⟨item :: items, .cons hitem hspells, ?_⟩
        rw [List.foldlM_cons, bind_eq_ok_iff]
        exact ⟨k, htake, htaken⟩
  · rintro ⟨items, hspells, htaken⟩
    exact (readFrom_eq hspells g .none).trans htaken

end Given

/-! ## What stands among the arguments -/

namespace Flag

/-- A flag that stands alone is among the arguments. -/
def IsOn (flag : Flag) (arguments : List String) : Prop :=
  flagText flag ∈ arguments

/-- A flag is among the arguments with a value: in one argument with it, or in the argument before it. -/
def IsSet (flag : Flag) (arguments : List String) (value : String) : Prop :=
  flagText flag ++ "=" ++ value ∈ arguments ∨ [flagText flag, value] <:+: arguments

end Flag

section

variable {arguments word : List String} {item : Item} {items : List Item} {flag : Flag} {value : String}

theorem isOn_append (hitem : item.Spelled word) (hflag : flag.isSwitch = true) :
    flag.IsOn (word ++ arguments) ↔ .switch flag = item ∨ flag.IsOn arguments := by
  unfold Flag.IsOn
  rw [List.mem_append]
  apply or_congr_left
  cases hitem with
  | switch =>
    rw [List.mem_singleton, Item.switch.injEq]
    exact ⟨flagText_inj, congrArg flagText⟩
  | joined => simp [flagText_ne_setting]
  | @apart flag' value' hflag' hvalue =>
    have hne : flagText flag ≠ flagText flag' := by
      intro h
      rw [flagText_inj h, hflag'] at hflag
      cases hflag
    simp [hne, flagText_ne_plain hvalue]

/-- The argument after a flag that takes a value is its value, and no other argument has one after it. -/
theorem isSet_append (hitem : item.Spelled word) (hflag : flag.isSwitch = false) :
    flag.IsSet (word ++ arguments) value ↔ .setting flag value = item ∨ flag.IsSet arguments value := by
  unfold Flag.IsSet
  cases hitem with
  | @switch flag' hflag' =>
    have hne : flagText flag ≠ flagText flag' := by
      intro h
      rw [flagText_inj h, hflag'] at hflag
      cases hflag
    simp [List.infix_cons_iff, hne, (flagText_ne_setting flag' flag value).symm]
  | @joined flag' hflag' value' =>
    have heq : flagText flag ++ "=" ++ value = flagText flag' ++ "=" ++ value' ↔ flag = flag' ∧ value = value' :=
      ⟨setting_inj, fun h => by rw [h.1, h.2]⟩
    rw [List.singleton_append, List.mem_cons, heq, List.infix_cons_iff, List.cons_prefix_cons, Item.setting.injEq]
    simp [flagText_ne_setting, or_assoc]
  | @apart flag' value' hflag' hvalue =>
    have heq : flagText flag = flagText flag' ↔ flag = flag' := ⟨flagText_inj, congrArg flagText⟩
    simp [List.infix_cons_iff, heq, (flagText_ne_setting flag' flag value).symm, flagText_ne_plain hvalue,
      setting_ne_plain hvalue, or_left_comm]

/-- What is spelled has the switches on that its items name: a value is never taken for a flag. -/
theorem CommandLine.Spells.isOn_iff (h : Spells arguments items) (hflag : flag.isSwitch = true) :
    flag.IsOn arguments ↔ .switch flag ∈ items := by
  induction h with
  | nil => simp [Flag.IsOn]
  | stop =>
    have hne : flagText flag ≠ "--" := fun h =>
      Argument.noConfusion ((Argument.ofText_flagText flag).symm.trans (congrArg Argument.ofText h))
    simp [Flag.IsOn, hne]
  | cons hitem _ ih => rw [isOn_append hitem hflag, ih, List.mem_cons]

theorem CommandLine.Spells.isSet_iff (h : Spells arguments items) (hflag : flag.isSwitch = false) :
    flag.IsSet arguments value ↔ .setting flag value ∈ items := by
  induction h with
  | nil => simp [Flag.IsSet]
  | stop =>
    have hne : flagText flag ++ "=" ++ value ≠ "--" := fun h =>
      Argument.noConfusion ((Argument.ofText_setting flag value).symm.trans (congrArg Argument.ofText h))
    simp [Flag.IsSet, hne, List.infix_cons_iff]
  | cons hitem _ ih => rw [isSet_append hitem hflag, ih, List.mem_cons]

end

end OutageLedger
