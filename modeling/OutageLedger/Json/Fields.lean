import OutageLedger.Json.Basic

/-
  Records in JSON. A record with declared names is an object, whose other members are passed over, or
  an array of its values in the order of declaration, which may end early.
-/

namespace OutageLedger.Json

/-- The values given for the declared names of a record. -/
structure Fields where
  values : List (String × Option Json)
  /-- Written as an array. -/
  positional : Bool

/-- The value of a member, if there is one; two members of that name are one too many. -/
def member? (members : List (Option String × Json)) (name : String) : Option (Option Json) :=
  match members.filter fun m => m.1 == some name with
  | [] => some none
  | [m] => some (some m.2)
  | _ => none

/-- Items beside the names they stand for; there is no name for an item too many. -/
def align? : List String → List Json → Option (List (String × Option Json))
  | names, [] => some (names.map (·, none))
  | [], _ :: _ => none
  | name :: names, item :: items => (align? names items).map ((name, some item) :: ·)

/-- The values that a record gives for its declared names. All names of an object must be texts. -/
def fields? (names : List String) : Json → Option Fields
  | .object members =>
    if members.all fun m => m.1.isSome then
      (names.mapM fun name => (member? members name).map (name, ·)).map (⟨·, false⟩)
    else none
  | .array items => (align? names items).map (⟨·, true⟩)
  | _ => none

namespace Fields

def value? (fields : Fields) (name : String) : Option Json :=
  (fields.values.lookup name).join

/-- A value that must be given. -/
def required {α : Type} (fields : Fields) (name : String) (read : Json → Option α) : Option α :=
  fields.value? name >>= read

/-- A value that is `default` when it is not given. -/
def withDefault {α : Type} (fields : Fields) (name : String) (read : Json → Option α)
    (default : α) : Option α :=
  match fields.value? name with
  | some value => read value
  | none => some default

/-- A value that may be `null` and may be left out. -/
def optional {α : Type} (fields : Fields) (name : String) (read : Json → Option α) :
    Option (Option α) :=
  fields.withDefault name (nullable? read) none

/-- A value that may be `null`, and that an object may leave out. -/
def nullable {α : Type} (fields : Fields) (name : String) (read : Json → Option α) :
    Option (Option α) :=
  if fields.positional then fields.required name (nullable? read) else fields.optional name read

end Fields

end OutageLedger.Json
