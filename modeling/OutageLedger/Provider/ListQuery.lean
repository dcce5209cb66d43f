import OutageLedger.Instant.Text
import OutageLedger.Provider.Basic

/-
  The parameters that select a page of alerts at a service. One service takes times in RFC 3339 and
  filters by team; the other takes a search expression with times in milliseconds.
-/

namespace OutageLedger

open Text

/-- Milliseconds since 1970 of the second of an instant. -/
def Instant.millis (t : Instant) : Int :=
  t.second * 1000

namespace FetchRequest

def limitText (r : FetchRequest) : String :=
  natText r.effectiveLimit.toNat

def offsetText (r : FetchRequest) : String :=
  natText r.offset.toNat

/-- The bounds of the window as a search expression. -/
def searchText (r : FetchRequest) : String :=
  s!"createdAt > {intText r.since.millis}" ++
    match r.upTo with
    | some t => s!" AND createdAt < {intText t.millis}"
    | none => ""

end FetchRequest

/-- The parameters of a list request, in order. -/
def Source.listQuery : Source → FetchRequest → List (String × String)
  | .pagerDuty, r =>
    [("since", r.since.zuluSecond)] ++ r.upTo.toList.map (fun t => ("until", t.zuluSecond)) ++
      r.teamIds.map (fun id => ("team_ids[]", id)) ++
      [("limit", r.limitText), ("offset", r.offsetText)]
  | .opsGenie, r =>
    [("query", r.searchText), ("order", "desc"), ("limit", r.limitText), ("offset", r.offsetText)]

end OutageLedger
