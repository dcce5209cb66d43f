import OutageLedger.Json.Token

/-
  Reading a JSON value from its tokens: a machine that takes one token at a time and keeps the arrays
  and objects that are still open, so that values may be nested to any depth.
-/

namespace OutageLedger.Json

/-- An array or object that is still open, its parts in reverse; an object awaits the value of `name`. -/
inductive Frame
  | array (done : List Json)
  | object (done : List (Option String × Json)) (name : Option String)

/-- What the machine awaits. -/
inductive State
  /-- A value. -/
  | value (frames : List Frame)
  /-- The first item of an array or its end. -/
  | firstItem (frames : List Frame)
  /-- The first name of an object or its end. -/
  | firstName (frames : List Frame)
  /-- A further name of an object. -/
  | name (done : List (Option String × Json)) (frames : List Frame)
  /-- The colon after a name. -/
  | colon (done : List (Option String × Json)) (name : Option String) (frames : List Frame)
  /-- What may follow a value: a comma, the end of what it stands in, or the end of the text. -/
  | follow (value : Json) (frames : List Frame)

namespace State

/-- The first token of a value. -/
def begin (frames : List Frame) : Token → Option State
  | .leaf v => some (.follow v frames)
  | .beginArray => some (.firstItem frames)
  | .beginObject => some (.firstName frames)
  | _ => none

def step : State → Token → Option State
  | .value frames, token => begin frames token
  | .firstItem frames, .endArray => some (.follow (.array []) frames)
  | .firstItem frames, token => begin (.array [] :: frames) token
  | .firstName frames, .endObject => some (.follow (.object []) frames)
  | .firstName frames, .leaf (.string key) => some (.colon [] key frames)
  | .name done frames, .leaf (.string key) => some (.colon done key frames)
  | .colon done key frames, .colon => some (.value (.object done key :: frames))
  | .follow v (.array done :: frames), .comma => some (.value (.array (v :: done) :: frames))
  | .follow v (.array done :: frames), .endArray =>
    some (.follow (.array (v :: done).reverse) frames)
  | .follow v (.object done key :: frames), .comma => some (.name ((key, v) :: done) frames)
  | .follow v (.object done key :: frames), .endObject =>
    some (.follow (.object ((key, v) :: done).reverse) frames)
  | _, _ => none

/-- The value of a finished text. -/
def result? : State → Option Json
  | .follow v [] => some v
  | _ => none

end State

/-- The value that a row of tokens denotes. -/
def ofTokens? (tokens : List Token) : Option Json :=
  tokens.foldlM State.step (.value []) >>= State.result?

/-- Reads a JSON text. -/
def ofBytes? (bytes : List UInt8) : Option Json :=
  tokens? bytes >>= ofTokens?

end OutageLedger.Json
