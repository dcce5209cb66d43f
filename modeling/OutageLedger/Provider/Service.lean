import OutageLedger.Config
import OutageLedger.Journal
import OutageLedger.Provider.Client
import OutageLedger.Provider.ListQuery
import OutageLedger.Provider.Payload

/-
  The paging services behind their questions: the request that a question becomes, and what the reply
  says.
-/

namespace OutageLedger

open Text

namespace Source

/-- The address of a service when none is configured. -/
def defaultUrl : Source → String
  | .pagerDuty => "https://api.pagerduty.com"
  | .opsGenie => "https://api.opsgenie.com"

/-- The kind of answer that a service is asked for, where it has more than one. -/
def mediaType? : Source → Option String
  | .pagerDuty => some "application/vnd.pagerduty+json;version=2"
  | .opsGenie => none

/-- The value of the header that carries the key. -/
def authorization : Source → String → String
  | .pagerDuty, key => s!"Token token={key}"
  | .opsGenie, key => s!"GenieKey {key}"

def listPath : Source → String
  | .pagerDuty => "/incidents"
  | .opsGenie => "/v2/alerts"

def teamsPath : Source → String
  | .pagerDuty => "/teams"
  | .opsGenie => "/v2/teams"

/-- The segments of the path before the id of a single alert. -/
def collection : Source → List String
  | .pagerDuty => ["incidents"]
  | .opsGenie => ["v2", "alerts"]

/-- The address of a service: the configured one, unless it is empty. -/
def url (source : Source) (settings : ProviderSettings) : String :=
  (settings.apiUrl.filter (· ≠ "")).getD source.defaultUrl

end Source

namespace ProviderClient

/-- The headers of each request to a service. -/
def headersFor (source : Source) (settings : ProviderSettings) : List (String × String) :=
  ("authorization", source.authorization settings.apiKey) ::
    source.mediaType?.toList.map fun value => ("accept", value)

def ofSettings (source : Source) (settings : ProviderSettings) :
    Except ProviderError ProviderClient :=
  ofHeaders source (source.url settings) (headersFor source settings)

/-- The request that a question becomes. -/
def request (c : ProviderClient) : ProviderQuery → Except RequestError HttpRequest
  | .page r => do
    let request ← c.get c.source.listPath
    request.withQuery ((c.source.listQuery r).map fun (name, value) => .pair name value)
  | .alert id => c.getItem c.source.collection id
  | .teams => c.get c.source.teamsPath

end ProviderClient

/-! ## Replies -/

namespace Source

/-- What a status that is no success says. -/
def refusal (source : Source) (status : Nat) (body : String) : ProviderError :=
  if status = 401 ∨ status = 403 then .auth source status body else .api source status body

/-- The body of a reply of success. The body of any other reply goes into the error as text, and is
empty where it breaks off. -/
def body (source : Source) : HttpReply → Except ProviderError (List UInt8)
  | .none detail => .error (.transport source detail)
  | .answer status body =>
    if isSuccess status then
      match body with
      | some bytes => .ok bytes
      | none => .error (.transport source "error decoding response body")
    else .error (source.refusal status (String.ofList (Utf8.decodeLossy (body.getD []))))

/-- What is read from a body, which must be what the service promises. -/
def decoded {α : Type} (source : Source) : Option α → Except ProviderError α
  | some a => .ok a
  | none => .error (.decode source "unexpected body")

/-- The answer to a question in the body of a reply. -/
def answerOfBytes (source : Source) (body : List UInt8) :
    (q : ProviderQuery) → Except ProviderError q.Answer
  | .page r => source.decoded ((source.pageOfBytes? body).map (·.alertPage source r.teamIds))
  | .alert _ => source.decoded (source.alertOfBytes? body)
  | .teams => source.decoded (source.teamsOfBytes? body)

/-- A question for a single alert fails in its own way where the service does not know the alert. -/
def specific (source : Source) : ProviderQuery → ProviderError → ProviderError
  | .alert id, .api _ 404 _ => .notFound source id
  | _, e => e

/-- The answer to a question, as the reply to its request gives it. -/
def answer (source : Source) (q : ProviderQuery) (reply : HttpReply) :
    Except ProviderError q.Answer :=
  match source.body reply with
  | .ok bytes => source.answerOfBytes bytes q
  | .error e => .error (source.specific q e)

/-! ## Remarks -/

/-- What is noted of a page: one service says how many incidents it sent, of the other it is said how
many alerts were left out. -/
def pageRemarks (source : Source) (r : FetchRequest) (page : AlertPage) : List Event :=
  match source with
  | .pagerDuty => [.incidentPage r.offset page.alerts.length page.hasMore]
  | .opsGenie =>
    if page.alerts.length < page.scanned then
      [.droppedByTeam r.offset page.scanned page.alerts.length]
    else []

/-- What is noted of a reply. -/
def remarks (source : Source) (q : ProviderQuery) (reply : HttpReply) : List Event :=
  match reply with
  | .none _ => []
  | .answer status _ =>
    if isSuccess status then
      match q with
      | .page r =>
        match source.answer (.page r) reply with
        | .ok (page : AlertPage) => source.pageRemarks r page
        | .error _ => []
      | _ => []
    else [.errorStatus source status]

end Source

/-! ## Services -/

/-- Sends requests, keeping a state from one to the next. -/
abbrev Transport (τ : Type) : Type :=
  HttpRequest → τ → HttpReply × τ

/-- A paging service as an importer sees it: it answers questions, and notes some of them. -/
structure Provider (π : Type) where
  source : Source
  answer : (q : ProviderQuery) → π → Except ProviderError q.Answer × List Event × π

/-- The service that a client asks over a transport. -/
def Provider.ofClient {τ : Type} (c : ProviderClient) (send : Transport τ) : Provider τ where
  source := c.source
  answer q s :=
    match c.request q with
    | .error e => (.error (e.providerError c.source), [], s)
    | .ok request =>
      let (reply, s) := send request s
      (c.source.answer q reply, c.source.remarks q reply, s)

end OutageLedger
