import OutageLedger.Alert.Source
import OutageLedger.Instant.Basic
import OutageLedger.Uuid

/-
  Alerts as a paging service reports them, the outages opened for them, and the alerts on record. The
  identity of an alert is its number at the service together with the service.
-/

namespace OutageLedger

inductive OutageStatus
  | opened
  | investigating
  | resolved
  | closed
  deriving DecidableEq, Repr

namespace OutageStatus

def all : List OutageStatus := [.opened, .investigating, .resolved, .closed]

def name : OutageStatus → String
  | .opened => "open"
  | .investigating => "investigating"
  | .resolved => "resolved"
  | .closed => "closed"

instance : ToString OutageStatus where
  toString := name

def ofName? (name : String) : Option OutageStatus :=
  all.find? (·.name == name)

theorem ofName?_name (s : OutageStatus) : ofName? s.name = some s := by
  cases s <;> rfl

end OutageStatus

/-- A name that no status has. -/
structure UnknownStatus where
  name : String

def UnknownStatus.message (e : UnknownStatus) : String :=
  s!"unknown outage status: {e.name}"

def OutageStatus.ofName (name : String) : Except UnknownStatus OutageStatus :=
  match ofName? name with
  | some s => .ok s
  | none => .error ⟨name⟩

/-! ## Alerts -/

/-- The identity of an alert. -/
structure AlertKey where
  externalId : String
  source : Source
  deriving DecidableEq, Repr

/-- An alert as its paging service reports it. -/
structure Alert where
  externalId : String
  source : Source
  teamName : String
  title : String
  description : String
  severity : String
  triggeredAt : Instant
  acknowledgedAt : Option Instant
  resolvedAt : Option Instant
  deriving DecidableEq, Repr

namespace Alert

def key (a : Alert) : AlertKey :=
  ⟨a.externalId, a.source⟩

/-- The status of an outage opened for the alert: an alert with a time of resolution is resolved. -/
def status (a : Alert) : OutageStatus :=
  if a.resolvedAt.isSome then .resolved else .opened

end Alert

/-! ## Outages -/

structure Outage where
  id : Uuid
  title : String
  description : String
  status : OutageStatus
  severity : String
  createdAt : Instant
  updatedAt : Instant
  resolvedAt : Option Instant
  deriving DecidableEq, Repr

/-- The outage opened for an alert at some time. -/
def Alert.openOutage (a : Alert) (id : Uuid) (at' : Instant) : Outage :=
  { id
    title := a.title
    description := a.description
    status := a.status
    severity := a.severity
    createdAt := at'
    updatedAt := at'
    resolvedAt := a.resolvedAt }

/-! ## Alerts on record -/

/-- An alert on record, attached to an outage. -/
structure AlertRecord where
  id : Uuid
  outageId : Uuid
  alert : Alert
  createdAt : Instant
  deriving DecidableEq, Repr

def AlertRecord.key (r : AlertRecord) : AlertKey :=
  r.alert.key

/-! ## Teams -/

structure Team where
  id : String
  name : String
  deriving DecidableEq, Repr

end OutageLedger
