import OutageLedger.Text.Decimal

/-
  JSON values. A string is kept as the text it denotes, or as no text when its bytes or escapes
  denote none; such a string may stand wherever nobody looks at it. A number is kept as written.
-/

namespace OutageLedger

inductive Json
  | null
  | bool (value : Bool)
  | number (digits : List Char)
  | string (content : Option String)
  | array (items : List Json)
  | object (members : List (Option String × Json))
  deriving Repr

namespace Json

/-- A string that denotes a text. -/
def text (s : String) : Json :=
  .string (some s)

def nat (n : Nat) : Json :=
  .number (Text.decimal n)

/-- An object whose names are texts. -/
def record (members : List (String × Json)) : Json :=
  .object (members.map fun (name, value) => (some name, value))

/-- The text of a string. -/
def text? : Json → Option String
  | .string content => content
  | _ => none

def bool? : Json → Option Bool
  | .bool value => some value
  | _ => none

/-- The items of an array, each read by `read`. -/
def list? {α : Type} (read : Json → Option α) : Json → Option (List α)
  | .array items => items.mapM read
  | _ => none

/-- What `read` finds, or nothing for `null`. -/
def nullable? {α : Type} (read : Json → Option α) : Json → Option (Option α)
  | .null => some none
  | value => (read value).map some

/-- The name of a case without contents: the string, or an object that maps it to `null`. -/
def case? : Json → Option String
  | .string content => content
  | .object [(name, .null)] => name
  | _ => none

theorem text?_text (s : String) : (text s).text? = some s :=
  rfl

end Json

end OutageLedger
