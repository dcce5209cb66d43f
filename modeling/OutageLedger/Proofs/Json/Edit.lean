import Mathlib.Data.List.Perm.Basic
import Mathlib.Logic.Relation
import OutageLedger.Json.Fields

/-
  What readers of records do not see. A shape says where a reader expects records, and with which names; an edit
  changes the order of the members of one of these, or puts in a member with another name. Main statements:
  `blind_record` and `blind_list`, a reader does not see an edit of what it reads if the readers of its fields and
  items do not.
-/

namespace OutageLedger.Json

/-- Where a reader expects lists, and records with which names. -/
inductive Shape
  | leaf
  | list (item : Shape)
  | record (fields : List (String × Shape))

/-- The shape of a field; nothing is expected of what has no name here. -/
def Shape.field (fields : List (String × Shape)) (name : String) : Shape :=
  (fields.lookup name).getD .leaf

@[simp]
theorem Shape.field_cons (name name' : String) (shape : Shape) (fields : List (String × Shape)) :
    field ((name', shape) :: fields) name = if name = name' then shape else field fields name := by
  unfold field
  rw [List.lookup_cons]
  split <;> simp_all

/-- A single change to a value of some shape: the members of a record in another order, or one more that has none of
its names, or such a change to what a record gives for a name or to an item of a list. -/
inductive Edit : Shape → Json → Json → Prop
  | permute {fields : List (String × Shape)} {ms ms' : List (Option String × Json)} (h : ms.Perm ms') :
    Edit (.record fields) (.object ms) (.object ms')
  | insert {fields : List (String × Shape)} {name : String} (hname : name ∉ fields.map (·.1)) (value : Json)
    (ms ms' : List (Option String × Json)) :
    Edit (.record fields) (.object (ms ++ ms')) (.object (ms ++ (some name, value) :: ms'))
  | member {fields : List (String × Shape)} {name : String} {shape : Shape} {value value' : Json}
    (hfield : Shape.field fields name = shape) (h : Edit shape value value') (ms ms' : List (Option String × Json)) :
    Edit (.record fields) (.object (ms ++ (some name, value) :: ms')) (.object (ms ++ (some name, value') :: ms'))
  | place {fields : List (String × Shape)} {name : String} {shape : Shape} {value value' : Json} {items : List Json}
    (hplace : (fields.map (·.1))[items.length]? = some name) (hfield : Shape.field fields name = shape)
    (h : Edit shape value value') (items' : List Json) :
    Edit (.record fields) (.array (items ++ value :: items')) (.array (items ++ value' :: items'))
  | item {shape : Shape} {value value' : Json} (h : Edit shape value value') (items items' : List Json) :
    Edit (.list shape) (.array (items ++ value :: items')) (.array (items ++ value' :: items'))

/-- Any number of changes, each made or undone. -/
def Edited (shape : Shape) : Json → Json → Prop :=
  Relation.EqvGen (Edit shape)

/-- The reader does not see changes. -/
def Blind {α : Type} (shape : Shape) (read : Json → Option α) : Prop :=
  ∀ j j', Edit shape j j' → read j = read j'

theorem Blind.edited {α : Type} {shape : Shape} {read : Json → Option α} (h : Blind shape read) {j j' : Json}
    (hedited : Edited shape j j') : read j = read j' := by
  induction hedited with
  | rel j j' hedit => exact h j j' hedit
  | refl j => rfl
  | symm j j' _ ih => exact ih.symm
  | trans j k j' _ _ ih ih' => exact ih.trans ih'

theorem Blind.map {α β : Type} {shape : Shape} {read : Json → Option α} (h : Blind shape read) (f : α → β) :
    Blind shape fun j => (read j).map f :=
  fun j j' hedit => congrArg (Option.map f) (h j j' hedit)

theorem blind_leaf {α : Type} (read : Json → Option α) : Blind .leaf read :=
  fun _ _ hedit => nomatch hedit

theorem blind_list {α : Type} {shape : Shape} {read : Json → Option α} (h : Blind shape read) :
    Blind (.list shape) (list? read) := by
  intro j j' hedit
  cases hedit with
  | item hitem items items' => simp only [list?, List.mapM_append, List.mapM_cons, h _ _ hitem]

/-! ## Values that may be missing -/

section

variable {α β γ : Type} {r : α → α → Prop} {o o' : Option α}

theorem rel_self (h : ∀ a, r a a) (o : Option α) : Option.Rel r o o := by
  cases o with
  | none => exact .none
  | some a => exact .some (h a)

theorem rel_map {q : β → β → Prop} {f f' : α → β} (h : Option.Rel r o o') (hf : ∀ a a', r a a' → q (f a) (f' a')) :
    Option.Rel q (o.map f) (o'.map f') := by
  cases h with
  | none => exact .none
  | some ha => exact .some (hf _ _ ha)

theorem bind_eq_of_rel {f : α → Option γ} (h : Option.Rel r o o') (hf : ∀ a a', r a a' → f a = f a') :
    o >>= f = o' >>= f := by
  cases h with
  | none => rfl
  | some ha => exact hf _ _ ha

end

/-! ## Members -/

/-- The value of a single member, or none of no member; more than one are too many. -/
def soleValue? : List (Option String × Json) → Option (Option Json)
  | [] => some none
  | [m] => some (some m.2)
  | _ => none

theorem member?_eq_soleValue? (ms : List (Option String × Json)) (name : String) :
    member? ms name = soleValue? (ms.filter fun m => m.1 == some name) :=
  rfl

theorem soleValue?_perm {ms ms' : List (Option String × Json)} (h : ms.Perm ms') : soleValue? ms = soleValue? ms' := by
  match ms, ms', h.length_eq with
  | [], [], _ => rfl
  | [m], [m'], _ => rw [List.singleton_perm_singleton.mp h]
  | _ :: _ :: _, _ :: _ :: _, _ => rfl

/-- One value in the place of another, or the same lack of a value. -/
theorem soleValue?_replace {r : Json → Json → Prop} {value value' : Json} (h : r value value') (key : Option String)
    (ms ms' : List (Option String × Json)) :
    Option.Rel (Option.Rel r) (soleValue? (ms ++ (key, value) :: ms')) (soleValue? (ms ++ (key, value') :: ms')) := by
  match ms, ms' with
  | [], [] => exact .some (.some h)
  | [], _ :: _ => exact .none
  | [_], _ => cases ms' <;> exact .none
  | _ :: _ :: _, _ => exact .none

variable {fields : List (String × Shape)}

/-- For a name that is expected, an edit leaves the value, or gives another that an edit leads to. -/
theorem member?_edit {ms ms' : List (Option String × Json)} (h : Edit (.record fields) (.object ms) (.object ms'))
    {name : String} (hname : name ∈ fields.map (·.1)) :
    Option.Rel (Option.Rel (Edited (Shape.field fields name))) (member? ms name) (member? ms' name) := by
  have hrefl : ∀ o : Option (Option Json), Option.Rel (Option.Rel (Edited (Shape.field fields name))) o o :=
    rel_self (rel_self .refl)
  simp only [member?_eq_soleValue?]
  cases h with
  | permute hperm =>
    rw [soleValue?_perm (hperm.filter _)]
    exact hrefl _
  | @insert _ other hother value front rest =>
    have hne : other ≠ name := fun heq => hother (heq ▸ hname)
    rw [List.filter_append, List.filter_append, List.filter_cons_of_neg (by simpa using hne)]
    exact hrefl _
  | @member _ other shape value value' hfield hedit front rest =>
    subst hfield
    rw [List.filter_append, List.filter_append]
    by_cases heq : other = name
    · subst heq
      rw [List.filter_cons_of_pos (by simp), List.filter_cons_of_pos (by simp)]
      exact soleValue?_replace (.rel _ _ hedit) _ _ _
    · rw [List.filter_cons_of_neg (by simpa using heq), List.filter_cons_of_neg (by simpa using heq)]
      exact hrefl _

/-- The names of all members are texts, or after an edit still not all. -/
theorem all_isSome_edit {ms ms' : List (Option String × Json)}
    (h : Edit (.record fields) (.object ms) (.object ms')) :
    (ms.all fun m => m.1.isSome) = ms'.all fun m => m.1.isSome := by
  cases h with
  | permute hperm => exact hperm.all_eq
  | insert => simp
  | member => simp

/-! ## Fields -/

/-- For each name, the values are related that two lists give for it. -/
def LookUpRel (r : String → Json → Json → Prop) (vs vs' : List (String × Option Json)) : Prop :=
  ∀ name, Option.Rel (r name) (vs.lookup name).join (vs'.lookup name).join

theorem LookUpRel.cons {r : String → Json → Json → Prop} {vs vs' : List (String × Option Json)}
    (h : LookUpRel r vs vs') {name : String} {o o' : Option Json} (hvalue : Option.Rel (r name) o o') :
    LookUpRel r ((name, o) :: vs) ((name, o') :: vs') := by
  intro name'
  simp only [List.lookup_cons]
  split
  · rename_i heq
    obtain rfl := eq_of_beq heq
    exact hvalue
  · exact h name'

theorem rel_mapM {r : String → Json → Json → Prop} {names : List String} {give give' : String → Option (Option Json)}
    (h : ∀ name ∈ names, Option.Rel (Option.Rel (r name)) (give name) (give' name)) :
    Option.Rel (LookUpRel r) (names.mapM fun name => (give name).map (name, ·))
      (names.mapM fun name => (give' name).map (name, ·)) := by
  induction names with
  | nil => exact .some fun _ => .none
  | cons name names ih =>
    obtain ⟨hfirst, hrest⟩ := List.forall_mem_cons.mp h
    have hvalues := ih hrest
    rw [List.mapM_cons, List.mapM_cons]
    generalize give name = o at hfirst ⊢
    generalize give' name = o' at hfirst ⊢
    generalize names.mapM (fun name => (give name).map (name, ·)) = vs at hvalues ⊢
    generalize names.mapM (fun name => (give' name).map (name, ·)) = vs' at hvalues ⊢
    cases hfirst with
    | none => exact .none
    | some hvalue =>
      cases hvalues with
      | none => exact .none
      | some hvalues => exact .some (hvalues.cons hvalue)

theorem rel_align? {r : String → Json → Json → Prop} (hrefl : ∀ name j, r name j j) {names : List String}
    {name : String} {value value' : Json} (hvalue : r name value value') {items : List Json}
    (hplace : names[items.length]? = some name) (items' : List Json) :
    Option.Rel (LookUpRel r) (align? names (items ++ value :: items')) (align? names (items ++ value' :: items')) := by
  induction items generalizing names with
  | nil =>
    cases names with
    | nil => cases hplace
    | cons first names =>
      cases hplace
      have hsame : ∀ vs, LookUpRel r vs vs := fun vs name => rel_self (hrefl name) _
      exact rel_map (rel_self hsame (align? names items')) fun _ _ h => h.cons (.some hvalue)
  | cons item items ih =>
    cases names with
    | nil => cases hplace
    | cons first names =>
      have hplace' : names[items.length]? = some name := hplace
      exact rel_map (ih hplace') fun _ _ h => h.cons (.some (hrefl first item))

/-- Fields with values between which there are only edits. -/
def Akin (fields : List (String × Shape)) (f f' : Fields) : Prop :=
  LookUpRel (fun name => Edited (Shape.field fields name)) f.values f'.values

theorem fields?_edit_object {ms ms' : List (Option String × Json)}
    (h : Edit (.record fields) (.object ms) (.object ms')) :
    Option.Rel (Akin fields) ((object ms).fields? (fields.map (·.1))) ((object ms').fields? (fields.map (·.1))) := by
  unfold fields?
  dsimp only
  rw [all_isSome_edit h]
  split
  · exact rel_map (rel_mapM fun name hname => member?_edit h hname) fun _ _ h => h
  · exact .none

/-- After an edit of a record its fields are akin, or it is still none. -/
theorem fields?_edit {j j' : Json} (h : Edit (.record fields) j j') :
    Option.Rel (Akin fields) (j.fields? (fields.map (·.1))) (j'.fields? (fields.map (·.1))) := by
  cases h with
  | permute hperm => exact fields?_edit_object (.permute hperm)
  | insert hname value ms ms' => exact fields?_edit_object (.insert hname value ms ms')
  | member hfield hedit ms ms' => exact fields?_edit_object (.member hfield hedit ms ms')
  | place hplace hfield hedit items' =>
    subst hfield
    exact rel_map (rel_align? (fun _ => .refl) (.rel _ _ hedit) hplace items') fun _ _ h => h

theorem blind_record {α : Type} {read : Fields → Option α} (h : ∀ f f', Akin fields f f' → read f = read f') :
    Blind (.record fields) fun j => j.fields? (fields.map (·.1)) >>= read :=
  fun _ _ hedit => bind_eq_of_rel (fields?_edit hedit) h

namespace Akin

variable {f f' : Fields} {shape : Shape} {α : Type} {read : Json → Option α}

theorem value? (h : Akin fields f f') {name : String} (hfield : Shape.field fields name = shape) :
    Option.Rel (Edited shape) (f.value? name) (f'.value? name) :=
  hfield ▸ h name

theorem required (h : Akin fields f f') (name : String) (hfield : Shape.field fields name = shape)
    (hread : Blind shape read) : f.required name read = f'.required name read :=
  bind_eq_of_rel (h.value? hfield) fun _ _ hedited => hread.edited hedited

theorem withDefault (h : Akin fields f f') (name : String) (hfield : Shape.field fields name = shape)
    (hread : Blind shape read) (default : α) : f.withDefault name read default = f'.withDefault name read default := by
  have hvalue := h.value? hfield
  unfold Fields.withDefault
  generalize f.value? name = v at hvalue ⊢
  generalize f'.value? name = v' at hvalue ⊢
  cases hvalue with
  | none => rfl
  | some hedited => exact hread.edited hedited

/-- What is not expected to be a record is read as it is. -/
theorem optional (h : Akin fields f f') (name : String) (hfield : Shape.field fields name = .leaf) :
    f.optional name read = f'.optional name read :=
  h.withDefault name hfield (blind_leaf _) none

end Akin

end OutageLedger.Json
