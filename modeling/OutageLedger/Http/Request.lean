import OutageLedger.Text.Base64
import OutageLedger.Text.Form
import OutageLedger.Url.Reader

/-
  Requests for a resource, and what they are answered with.
-/

namespace OutageLedger

open Text

/-- The method is always GET. -/
structure HttpRequest where
  url : Url
  headers : List (String × String)

/-- Why no request can be made. -/
inductive RequestError
  /-- The base is no address. -/
  | badBase (base : String) (e : UrlError)
  /-- The path of the base takes no segments. -/
  | noPath (base : String)
  /-- The text built from the base is no address with a host. -/
  | badUrl
  /-- A parameter has no form as text. -/
  | noForm

/-- A parameter of a request. -/
inductive QueryItem
  | pair (name value : String)
  /-- A row of texts, which a form does not hold. -/
  | row (texts : List String)

def QueryItem.pair? : QueryItem → Option (String × String)
  | pair name value => some (name, value)
  | row _ => none

/-- Who a request is sent for. -/
structure Credentials where
  user : List Char
  password : Option (List Char)
  deriving DecidableEq, Repr

/-- The value of the header that sends them. -/
def Credentials.basic (c : Credentials) : String :=
  "Basic " ++ String.ofList (Base64.encode (Utf8.encode (c.user ++ ':' :: c.password.getD [])))

namespace Url

/-- The address with pairs appended to its query; an empty query is left out. -/
def withPairs (u : Url) (pairs : List (String × String)) : Url :=
  let given := u.query.getD []
  let query :=
    if given.isEmpty || pairs.isEmpty then given ++ Form.encode pairs
    else given ++ '&' :: Form.encode pairs
  { u with query := if query.isEmpty then none else some query }

/-- The text that a part of an address stands for. -/
def decoded? (part : List Char) : Option (List Char) :=
  Utf8.decode? (percentDecode part)

/-- The credentials in an address. That takes a text for the user, and without a user one for the
password. -/
def credentials? (u : Url) : Option Credentials :=
  match decoded? u.username with
  | none => none
  | some user =>
    let password := u.password.bind decoded?
    if user.isEmpty && password.isNone then none else some ⟨user, password⟩

/-- The address without credentials, which are sent in another way. -/
def withoutUser (u : Url) : Url :=
  if u.credentials?.isSome then { u with username := [], password := none } else u

end Url

namespace HttpRequest

/-- The headers of a request for an address. Credentials in the address become a header of the request
itself, and the given headers are added under the names that the request does not have yet. -/
def headersAt (u : Url) (headers : List (String × String)) : List (String × String) :=
  match u.credentials? with
  | none => headers
  | some c => ("authorization", c.basic) :: headers.filter (·.1 != "authorization")

/-- A request for an address with a host. -/
def ofUrl (headers : List (String × String)) (u : Url) : Except RequestError HttpRequest :=
  if u.hasHost then .ok ⟨u.withoutUser, headersAt u headers⟩ else .error .badUrl

/-- A request for the address that a text denotes. -/
def ofText (headers : List (String × String)) (s : String) : Except RequestError HttpRequest :=
  match Url.ofText s with
  | .ok u => ofUrl headers u
  | .error _ => .error .badUrl

/-- The request with parameters. -/
def withQuery (r : HttpRequest) (items : List QueryItem) : Except RequestError HttpRequest :=
  match items.mapM QueryItem.pair? with
  | some pairs => .ok { r with url := r.url.withPairs pairs }
  | none => .error .noForm

end HttpRequest

/-! ## Replies -/

/-- The reply to a request: a status with a body, which may break off, or no reply. -/
inductive HttpReply
  | answer (status : Nat) (body : Option (List UInt8))
  | none (detail : String)

/-- What comes of a request when there is no network. -/
def HttpReply.unconnected : HttpReply :=
  .none "no connection"

/-- How long a reply is waited for, in milliseconds. -/
def requestTimeout : Nat := 30000

/-- The statuses of success. -/
def isSuccess (status : Nat) : Bool :=
  200 ≤ status && status < 300

end OutageLedger
