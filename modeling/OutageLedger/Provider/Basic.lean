import OutageLedger.Alert.Basic
import OutageLedger.Provider.Error

/-
  Questions to a paging service: one page of the alerts of a window of time, a single alert, the
  teams.
-/

namespace OutageLedger

/-- Which alerts to fetch: those triggered in a window, for some teams or for all, and of these at
most `limit`, from the one at `offset` on. -/
structure FetchRequest where
  since : Instant
  upTo : Option Instant
  /-- All teams when empty. -/
  teamIds : List String
  /-- The default when zero. -/
  limit : UInt32
  offset : UInt32
  deriving DecidableEq, Repr

/-- How many alerts to ask for when nothing else is said. -/
def defaultLimit : UInt32 := 100

namespace FetchRequest

def effectiveLimit (r : FetchRequest) : UInt32 :=
  if r.limit = 0 then defaultLimit else r.limit

/-- The request for the page after this one, unless its offset is too large. -/
def next? (r : FetchRequest) : Option FetchRequest :=
  if r.offset.toNat + r.limit.toNat < UInt32.size then some { r with offset := r.offset + r.limit }
  else none

theorem effectiveLimit_ne_zero (r : FetchRequest) : r.effectiveLimit ≠ 0 := by
  unfold effectiveLimit
  split
  · decide
  · assumption

theorem toNat_offset_next (r : FetchRequest) {r' : FetchRequest} (h : r.next? = some r') :
    r'.offset.toNat = r.offset.toNat + r.limit.toNat := by
  unfold next? at h
  split at h
  · rename_i hlt
    cases h
    simpa [UInt32.toNat_add] using Nat.mod_eq_of_lt hlt
  · cases h

theorem limit_next (r : FetchRequest) {r' : FetchRequest} (h : r.next? = some r') : r.limit = r'.limit := by
  unfold next? at h
  split at h
  · cases h
    rfl
  · cases h

end FetchRequest

/-- A page of alerts. -/
structure AlertPage where
  alerts : List Alert
  /-- The service has more alerts. -/
  hasMore : Bool
  /-- How many alerts the service sent, some of which may have been left out. -/
  scanned : Nat
  deriving DecidableEq, Repr

/-- A question to a paging service. -/
inductive ProviderQuery
  | page (request : FetchRequest)
  | alert (id : String)
  | teams
  deriving DecidableEq, Repr

/-- What a question is answered with. -/
def ProviderQuery.Answer : ProviderQuery → Type
  | page _ => AlertPage
  | alert _ => Alert
  | teams => List Team

end OutageLedger
