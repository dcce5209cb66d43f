import OutageLedger.Provider.Error
import OutageLedger.Store.Error

/-
  What may go wrong while alerts are taken in.
-/

namespace OutageLedger

open Text

/-- Why an alert was not taken in. -/
inductive IngestError
  /-- An alert with its identity was added in the meantime. -/
  | duplicate (key : AlertKey)
  | lookup (externalId : String) (e : StoreError)
  | createOutage (externalId : String) (e : StoreError)
  | createAlert (externalId : String) (e : StoreError)
  /-- The outage opened for the alert could not be removed again. -/
  | compensation (externalId : String) (outageId : Uuid) (e cleanup : StoreError)

namespace IngestError

def message : IngestError → String
  | duplicate key => s!"alert {key.externalId} from {key.source} already exists"
  | lookup id e => s!"failed to check for existing alert {id}: {e.message}"
  | createOutage id e => s!"failed to create outage for alert {id}: {e.message}"
  | createAlert id e => s!"failed to create alert {id}: {e.message}"
  | compensation id outageId e cleanup =>
    s!"failed to create alert {id}: {e.message}; outage {outageId} left behind: {cleanup.message}"

/-- What the store reported. -/
def cause? : IngestError → Option StoreError
  | duplicate _ => none
  | lookup _ e | createOutage _ e | createAlert _ e | compensation _ _ e _ => some e

end IngestError

/-- A page that could not be fetched, which ends a run. -/
structure ImportError where
  offset : UInt32
  cause : ProviderError

def ImportError.message (e : ImportError) : String :=
  s!"failed to fetch alerts at offset {natText e.offset.toNat}: {e.cause.message}"

/-- Why a single alert was not imported. -/
inductive LiveError
  | provider (e : ProviderError)
  | ingest (e : IngestError)
  /-- The store called the alert a duplicate, but does not find it. -/
  | vanished (externalId : String)

def LiveError.message : LiveError → String
  | .provider e => e.message
  | .ingest e => e.message
  | .vanished id => s!"alert {id} reported as duplicate but could not be re-read"

end OutageLedger
