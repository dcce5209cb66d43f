/-
  The paging services that alerts come from, and their names.
-/

namespace OutageLedger

/-- A paging service. -/
inductive Source
  | pagerDuty
  | opsGenie
  deriving DecidableEq, Repr

namespace Source

def all : List Source := [.pagerDuty, .opsGenie]

def name : Source → String
  | .pagerDuty => "pagerduty"
  | .opsGenie => "opsgenie"

instance : ToString Source where
  toString := name

/-- The service with a name; upper and lower case differ. -/
def ofName? (name : String) : Option Source :=
  all.find? (·.name == name)

theorem ofName?_name (s : Source) : ofName? s.name = some s := by
  cases s <;> rfl

end Source

/-- A name that no paging service has. -/
structure UnknownSource where
  name : String

def UnknownSource.message (e : UnknownSource) : String :=
  s!"unknown source: {e.name} (expected pagerduty or opsgenie)"

def Source.ofName (name : String) : Except UnknownSource Source :=
  match ofName? name with
  | some s => .ok s
  | none => .error ⟨name⟩

end OutageLedger
