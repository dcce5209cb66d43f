import OutageLedger.Http.Request
import OutageLedger.Provider.Error

/-
  A client of a paging service: the address and the headers of its requests.
-/

namespace OutageLedger

/-- What each request of a client has in common. -/
structure ProviderClient where
  source : Source
  baseUrl : String
  headers : List (String × String)

/-- A header value is one line of characters that are no controls. -/
def isHeaderValue (s : String) : Bool :=
  s.toList.all fun c => c == '\t' || !Text.isControl c

/-- A text without the slashes at its end. -/
def dropSlashes (s : String) : String :=
  String.ofList ((s.toList.reverse.dropWhile (· == '/')).reverse)

namespace RequestError

/-- What a failed request reports: the address of the client is wrong, or nothing was sent. -/
def providerError (source : Source) : RequestError → ProviderError
  | badBase base e => .client source s!"invalid base url {base}: {e.message}"
  | noPath base => .client source s!"base url {base} cannot take a path"
  | badUrl | noForm => .transport source "builder error"

end RequestError

namespace ProviderClient

/-- A client; the first header whose value cannot be sent is reported. -/
def ofHeaders (source : Source) (baseUrl : String) (headers : List (String × String)) :
    Except ProviderError ProviderClient :=
  match headers.find? fun h => !isHeaderValue h.2 with
  | some (name, _) => .error (.client source s!"invalid {name} header: failed to parse header value")
  | none => .ok ⟨source, dropSlashes baseUrl, headers⟩

/-- A request for a path, which follows the base as it is. -/
def get (c : ProviderClient) (path : String) : Except RequestError HttpRequest :=
  HttpRequest.ofText c.headers (c.baseUrl ++ path)

/-- The address of an item of a collection: the id is a segment of its own. -/
def itemUrl (c : ProviderClient) (collection : List String) (id : String) :
    Except RequestError Url :=
  match Url.ofText c.baseUrl with
  | .error e => .error (.badBase c.baseUrl e)
  | .ok u =>
    match u.extend? (collection ++ [id]) with
    | none => .error (.noPath c.baseUrl)
    | some u => .ok u

/-- A request for an item of a collection. -/
def getItem (c : ProviderClient) (collection : List String) (id : String) :
    Except RequestError HttpRequest := do
  let u ← c.itemUrl collection id
  HttpRequest.ofUrl c.headers u

end ProviderClient

end OutageLedger
