import OutageLedger.Alert.Source
import OutageLedger.Text.Decimal

/-
  What may go wrong when a paging service is asked.
-/

namespace OutageLedger

open Text

inductive ProviderError
  /-- The service does not accept the key. -/
  | auth (source : Source) (status : Nat) (body : String)
  /-- The service answers with any other status that is no success. -/
  | api (source : Source) (status : Nat) (body : String)
  | notFound (source : Source) (id : String)
  /-- The answer is not what the service promises. -/
  | decode (source : Source) (detail : String)
  /-- No answer was received. -/
  | transport (source : Source) (detail : String)
  /-- No request could be made. -/
  | client (source : Source) (detail : String)
  deriving DecidableEq, Repr

namespace ProviderError

def source : ProviderError → Source
  | auth s _ _ | api s _ _ | notFound s _ | decode s _ | transport s _ | client s _ => s

/-- The status that the service answered with, if it answered. -/
def status? : ProviderError → Option Nat
  | auth _ status _ | api _ status _ => some status
  | _ => none

def message : ProviderError → String
  | auth s status body => s!"{s} rejected credentials (status {natText status}): {body}"
  | api s status body => s!"{s} API error (status {natText status}): {body}"
  | notFound s id => s!"{s} alert not found: {id}"
  | decode s detail => s!"failed to decode {s} response: {detail}"
  | transport s detail => s!"{s} request failed: {detail}"
  | client s detail => s!"failed to build {s} client: {detail}"

end ProviderError

end OutageLedger
