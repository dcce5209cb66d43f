import OutageLedger.Alert.Basic
import OutageLedger.Instant.Reader
import OutageLedger.Json.Fields

/-
  Alerts, outages, records and teams as JSON objects. Instants are written in UTC with `Z`, and read
  in any form that resembles RFC 3339.
-/

namespace OutageLedger

/-! ## Parts -/

def Instant.toJson (t : Instant) : Json :=
  .text t.zulu

def Instant.ofJson? (j : Json) : Option Instant :=
  j.text? >>= Instant.ofLooseText?

def Instant.optionToJson : Option Instant → Json
  | some t => t.toJson
  | none => .null

def Uuid.toJson (u : Uuid) : Json :=
  .text (toString u)

def Uuid.ofJson? (j : Json) : Option Uuid :=
  j.text? >>= fun s => (Uuid.ofText s).toOption

def Source.toJson (s : Source) : Json :=
  .text s.name

def Source.ofJson? (j : Json) : Option Source :=
  j.case? >>= Source.ofName?

def OutageStatus.toJson (s : OutageStatus) : Json :=
  .text s.name

def OutageStatus.ofJson? (j : Json) : Option OutageStatus :=
  j.case? >>= OutageStatus.ofName?

/-! ## Alerts -/

namespace Alert

def fieldNames : List String :=
  ["external_id", "source", "team_name", "title", "description", "severity", "triggered_at",
    "acknowledged_at", "resolved_at"]

def members (a : Alert) : List (String × Json) :=
  [("external_id", .text a.externalId), ("source", a.source.toJson), ("team_name", .text a.teamName),
    ("title", .text a.title), ("description", .text a.description), ("severity", .text a.severity),
    ("triggered_at", a.triggeredAt.toJson),
    ("acknowledged_at", Instant.optionToJson a.acknowledgedAt),
    ("resolved_at", Instant.optionToJson a.resolvedAt)]

def toJson (a : Alert) : Json :=
  .record a.members

def ofFields? (f : Json.Fields) : Option Alert := do
  pure {
    externalId := ← f.required "external_id" Json.text?
    source := ← f.required "source" Source.ofJson?
    teamName := ← f.required "team_name" Json.text?
    title := ← f.required "title" Json.text?
    description := ← f.required "description" Json.text?
    severity := ← f.required "severity" Json.text?
    triggeredAt := ← f.required "triggered_at" Instant.ofJson?
    acknowledgedAt := ← f.nullable "acknowledged_at" Instant.ofJson?
    resolvedAt := ← f.nullable "resolved_at" Instant.ofJson? }

def ofJson? (j : Json) : Option Alert :=
  j.fields? fieldNames >>= ofFields?

end Alert

/-! ## Outages -/

namespace Outage

def fieldNames : List String :=
  ["id", "title", "description", "status", "severity", "created_at", "updated_at", "resolved_at"]

def members (o : Outage) : List (String × Json) :=
  [("id", o.id.toJson), ("title", .text o.title), ("description", .text o.description),
    ("status", o.status.toJson), ("severity", .text o.severity), ("created_at", o.createdAt.toJson),
    ("updated_at", o.updatedAt.toJson), ("resolved_at", Instant.optionToJson o.resolvedAt)]

def toJson (o : Outage) : Json :=
  .record o.members

def ofFields? (f : Json.Fields) : Option Outage := do
  pure {
    id := ← f.required "id" Uuid.ofJson?
    title := ← f.required "title" Json.text?
    description := ← f.required "description" Json.text?
    status := ← f.required "status" OutageStatus.ofJson?
    severity := ← f.required "severity" Json.text?
    createdAt := ← f.required "created_at" Instant.ofJson?
    updatedAt := ← f.required "updated_at" Instant.ofJson?
    resolvedAt := ← f.nullable "resolved_at" Instant.ofJson? }

def ofJson? (j : Json) : Option Outage :=
  j.fields? fieldNames >>= ofFields?

end Outage

/-! ## Alerts on record -/

namespace AlertRecord

def fieldNames : List String :=
  ["id", "outage_id"] ++ Alert.fieldNames ++ ["created_at"]

def members (r : AlertRecord) : List (String × Json) :=
  [("id", r.id.toJson), ("outage_id", r.outageId.toJson)] ++ r.alert.members ++
    [("created_at", r.createdAt.toJson)]

def toJson (r : AlertRecord) : Json :=
  .record r.members

def ofFields? (f : Json.Fields) : Option AlertRecord := do
  pure {
    id := ← f.required "id" Uuid.ofJson?
    outageId := ← f.required "outage_id" Uuid.ofJson?
    alert := ← Alert.ofFields? f
    createdAt := ← f.required "created_at" Instant.ofJson? }

def ofJson? (j : Json) : Option AlertRecord :=
  j.fields? fieldNames >>= ofFields?

end AlertRecord

/-! ## Teams -/

namespace Team

def fieldNames : List String := ["id", "name"]

def members (t : Team) : List (String × Json) :=
  [("id", .text t.id), ("name", .text t.name)]

def toJson (t : Team) : Json :=
  .record t.members

def ofFields? (f : Json.Fields) : Option Team := do
  pure { id := ← f.required "id" Json.text?, name := ← f.required "name" Json.text? }

def ofJson? (j : Json) : Option Team :=
  j.fields? fieldNames >>= ofFields?

end Team

end OutageLedger
