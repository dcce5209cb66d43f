import OutageLedger.Command.Dispatch
import OutageLedger.Proofs.Config.Environment
import OutageLedger.Proofs.Http.Credentials

/-
  Where the key and the address of a paging service come from: the environment, the configuration, or the service's
  own address, in this order. A client has its key in a header that goes with every request, unless there are
  credentials in the address of the request, which take that header's place (`ProviderClient.Uses`). Main statement:
  `configuration_precedence`, from what the environment and the configuration say to the requests that are sent.
-/

namespace OutageLedger

open Text

/-! ## Addresses -/

/-- The second text is the first one without the slashes at its end. -/
def IsTrimmed (url base : String) : Prop :=
  ∃ slashes : List Char, url.toList = base.toList ++ slashes ∧ (∀ c ∈ slashes, c = '/') ∧
    base.toList.getLast? ≠ some '/'

theorem isTrimmed_dropSlashes (url : String) : IsTrimmed url (dropSlashes url) := by
  have hsplit := List.takeWhile_append_dropWhile (p := (· == '/')) (l := url.toList.reverse)
  refine ⟨(url.toList.reverse.takeWhile (· == '/')).reverse, ?_, ?_, ?_⟩
  · unfold dropSlashes
    rw [String.toList_ofList, ← List.reverse_append, hsplit, List.reverse_reverse]
  · intro c hc
    have hslash := List.all_takeWhile (p := (· == '/')) (l := url.toList.reverse)
    rw [List.all_eq_true] at hslash
    exact beq_iff_eq.mp (hslash c (List.mem_reverse.mp hc))
  · unfold dropSlashes
    rw [String.toList_ofList, List.getLast?_reverse]
    intro h
    have hfirst := List.head?_dropWhile_not (· == '/') url.toList.reverse
    rw [h] at hfirst
    cases hfirst

theorem IsTrimmed.not_mem {url base : String} {d : Char} (h : IsTrimmed url base) (hd : d ∉ url.toList) :
    d ∉ base.toList := by
  obtain ⟨slashes, hurl, -⟩ := h
  exact fun hmem => hd (hurl ▸ List.mem_append_left slashes hmem)

section

variable {source : Source} {settings : ProviderSettings}

theorem Source.url_of_given {url : String} (h : settings.apiUrl = some url) (hne : url ≠ "") :
    source.url settings = url := by
  have hfilter : settings.apiUrl.filter (· ≠ "") = some url :=
    Option.filter_eq_some_iff.mpr ⟨h, decide_eq_true hne⟩
  unfold Source.url
  rw [hfilter, Option.getD_some]

theorem Source.url_of_none (h : ∀ url, settings.apiUrl = some url → url = "") :
    source.url settings = source.defaultUrl := by
  unfold Source.url
  rw [Option.filter_eq_none_iff.mpr fun url hurl => by simp [h url hurl], Option.getD_none]

end

/-! ## Clients -/

/-- The header value by which a service is told a key. -/
def Source.IsKeyHeader (source : Source) (key value : String) : Prop :=
  source = .pagerDuty ∧ value = "Token token=" ++ key ∨ source = .opsGenie ∧ value = "GenieKey " ++ key

theorem Source.isKeyHeader_iff {source : Source} {key value : String} :
    source.IsKeyHeader key value ↔ value = source.authorization key := by
  unfold IsKeyHeader
  cases source with
  | pagerDuty =>
    simp only [true_and, reduceCtorEq, false_and, or_false]
    exact Iff.rfl
  | opsGenie =>
    simp only [true_and, reduceCtorEq, false_and, false_or]
    exact Iff.rfl

/-- Credentials are not taken for a key. -/
theorem Source.not_isKeyHeader_basic (source : Source) (key text : String) :
    ¬source.IsKeyHeader key ("Basic " ++ text) := by
  rintro (⟨-, h⟩ | ⟨-, h⟩)
  all_goals
    have hfirst := congrArg (·.toList.head?) h
    simp at hfirst

namespace ProviderClient

/-- The address that a client puts a question to, as it is before credentials are taken off and parameters added. -/
inductive AsksAt (c : ProviderClient) : ProviderQuery → Url → Prop
  | page {u : Url} (r : FetchRequest) (h : Url.ofText (c.baseUrl ++ c.source.listPath) = .ok u) : AsksAt c (.page r) u
  | alert {u : Url} (id : String) (h : c.itemUrl c.source.collection id = .ok u) : AsksAt c (.alert id) u
  | teams {u : Url} (h : Url.ofText (c.baseUrl ++ c.source.teamsPath) = .ok u) : AsksAt c .teams u

/-- A request for an address carries the key exactly if there are no credentials in the address, and then all headers
of the client; otherwise it carries the credentials in place of the key. -/
structure Carries (c : ProviderClient) (source : Source) (key : String) (address : Url) (request : HttpRequest) :
    Prop where
  key : (∃ value, source.IsKeyHeader key value ∧ ("authorization", value) ∈ request.headers) ↔
    address.credentials? = none
  others : address.credentials? = none → request.headers = c.headers
  credentials : ∀ who, address.credentials? = some who → ∀ value, ("authorization", value) ∈ request.headers ↔
    value = "Basic " ++ String.ofList (Base64.encode (Utf8.encode (who.user ++ ':' :: who.password.getD [])))

/-- The client asks a service as the settings say. Its base is their address, or the service's own where they have
none. It has their key for a header, in the service's own way, and each request carries it, or the credentials in the
address that it is for. -/
structure Uses (client : ProviderClient) (source : Source) (settings : ProviderSettings) : Prop where
  asks : client.source = source
  key : ∀ value, ("authorization", value) ∈ client.headers ↔ source.IsKeyHeader settings.apiKey value
  requests : ∀ q request, client.request q = .ok request →
    ∃ address, client.AsksAt q address ∧ client.Carries source settings.apiKey address request
  /-- Without an `@` in its base there are no credentials in its addresses. -/
  plain : '@' ∉ client.baseUrl.toList → ∀ q request, client.request q = .ok request →
    request.headers = client.headers
  given : ∀ url, settings.apiUrl = some url → url ≠ "" → IsTrimmed url client.baseUrl
  default : (∀ url, settings.apiUrl = some url → url = "") → IsTrimmed source.defaultUrl client.baseUrl

variable {c : ProviderClient} {q : ProviderQuery} {u : Url} {request : HttpRequest}

theorem headers_ofUrl {headers : List (String × String)} (h : HttpRequest.ofUrl headers u = .ok request) :
    request.headers = HttpRequest.headersAt u headers := by
  unfold HttpRequest.ofUrl at h
  split at h
  · rw [← Except.ok.inj h]
  · cases h

theorem headers_get {path : String} (h : c.get path = .ok request) :
    ∃ u, Url.ofText (c.baseUrl ++ path) = .ok u ∧ request.headers = HttpRequest.headersAt u c.headers := by
  unfold get HttpRequest.ofText at h
  split at h
  · rename_i u hu
    exact ⟨u, hu, headers_ofUrl h⟩
  · cases h

/-- The headers of a request follow from those of the client and the address that it asks at. -/
theorem exists_asksAt (h : c.request q = .ok request) :
    ∃ u, c.AsksAt q u ∧ request.headers = HttpRequest.headersAt u c.headers := by
  cases q with
  | page r =>
    simp only [ProviderClient.request, bind_eq_ok_iff] at h
    obtain ⟨first, hget, h⟩ := h
    obtain ⟨u, hu, hheaders⟩ := headers_get hget
    unfold HttpRequest.withQuery at h
    split at h
    · rw [← Except.ok.inj h]
      exact ⟨u, .page r hu, hheaders⟩
    · cases h
  | alert id =>
    simp only [ProviderClient.request, getItem, bind_eq_ok_iff] at h
    obtain ⟨u, hu, h⟩ := h
    exact ⟨u, .alert id hu, headers_ofUrl h⟩
  | teams =>
    obtain ⟨u, hu, hheaders⟩ := headers_get h
    exact ⟨u, .teams hu, hheaders⟩

/-- The path of a service does not bring credentials in. -/
theorem credentials?_of_asksAt (h : c.AsksAt q u) (hbase : '@' ∉ c.baseUrl.toList) : u.credentials? = none := by
  have hpath : ∀ path : String, '@' ∉ path.toList → '@' ∉ (c.baseUrl ++ path).toList := by
    intro path hnone
    rw [String.toList_append, List.mem_append]
    exact not_or.mpr ⟨hbase, hnone⟩
  cases h with
  | page r h => exact Url.credentials?_of_ofText h (hpath _ (by cases c.source <;> decide))
  | teams h => exact Url.credentials?_of_ofText h (hpath _ (by cases c.source <;> decide))
  | alert id h =>
    unfold itemUrl at h
    split at h
    · cases h
    rename_i base hread
    split at h
    · cases h
    rename_i extended hextend
    cases h
    unfold Url.extend? at hextend
    split at hextend
    · cases hextend
    · cases hextend
      exact (Url.credentials?_of_ofText hread hbase :)

theorem mem_headersFor_iff {source : Source} {settings : ProviderSettings} {value : String} :
    ("authorization", value) ∈ headersFor source settings ↔ source.IsKeyHeader settings.apiKey value := by
  rw [Source.isKeyHeader_iff]
  cases source <;> simp [headersFor, Source.mediaType?]

/-- A client with the headers for some settings sends the key in them, or else the credentials in an address. -/
theorem carries_of_headersFor {source : Source} {settings : ProviderSettings}
    (hheaders : c.headers = headersFor source settings)
    (hrequest : request.headers = HttpRequest.headersAt u c.headers) :
    c.Carries source settings.apiKey u request := by
  cases hcredentials : u.credentials? with
  | none =>
    rw [HttpRequest.headersAt_of_none _ hcredentials] at hrequest
    have hmem : ("authorization", source.authorization settings.apiKey) ∈ request.headers := by
      rw [hrequest, hheaders]
      exact List.mem_cons_self
    constructor
    · exact iff_of_true ⟨_, Source.isKeyHeader_iff.mpr rfl, hmem⟩ hcredentials
    · exact fun _ => hrequest
    · intro who hwho
      cases hcredentials.symm.trans hwho
  | some who =>
    have hbasic : ∀ value, ("authorization", value) ∈ request.headers ↔ value = who.basic := fun value =>
      hrequest ▸ HttpRequest.authorization_headersAt c.headers hcredentials value
    constructor
    · refine iff_of_false ?_ fun hnone => nomatch hcredentials.symm.trans hnone
      rintro ⟨value, hkey, hmem⟩
      rw [(hbasic value).mp hmem] at hkey
      exact source.not_isKeyHeader_basic _ _ hkey
    · intro hnone
      cases hcredentials.symm.trans hnone
    · intro who' hwho'
      cases hcredentials.symm.trans hwho'
      exact hbasic

theorem uses_of_ofSettings {client : ProviderClient} {source : Source} {settings : ProviderSettings}
    (h : ofSettings source settings = .ok client) : client.Uses source settings := by
  unfold ofSettings ofHeaders at h
  split at h
  · cases h
  · obtain rfl := Except.ok.inj h
    exact {
      asks := rfl
      key := fun value => mem_headersFor_iff
      requests := fun q request hrequest => by
        obtain ⟨u, hasks, hheaders⟩ := exists_asksAt hrequest
        exact ⟨u, hasks, carries_of_headersFor rfl hheaders⟩
      plain := fun hbase q request hrequest => by
        obtain ⟨u, hasks, hheaders⟩ := exists_asksAt hrequest
        rw [hheaders, HttpRequest.headersAt_of_none _ (credentials?_of_asksAt hasks hbase)]
      given := fun url hurl hne => Source.url_of_given hurl hne ▸ isTrimmed_dropSlashes _
      default := fun hempty => Source.url_of_none hempty ▸ isTrimmed_dropSlashes _ }

/-- A client is made from the settings of the service that the command asks. -/
theorem uses_of_clientFor {client : ProviderClient} {source : Source} {c : Config}
    (h : Command.clientFor source c = .ok client) : ∃ s, c.provider source = .ok s ∧ client.Uses source s := by
  unfold Command.clientFor at h
  split at h
  · cases h
  · rename_i s hprovider
    exact ⟨s, hprovider, uses_of_ofSettings (mapError_eq_ok_iff.mp h)⟩

end ProviderClient

/-! ## Precedence -/

namespace Config

/-- Whatever the configuration and the environment say: each variable that says something goes before what the
configuration says of the same thing, and no other variable does. A service has settings if it had some before or one
of its own variables says something, and it can be asked if its key is not empty; its client then sends this key, or
credentials in the address in place of it, to the address in the settings or else to the service's own. -/
theorem configuration_precedence (c : Config) (lookup : String → Option String) :
    let c' := c.applyEnvironment lookup
    Overrides lookup databaseVariable id c.database c'.database ∧
      (∀ source s, c'.settings? source = some s →
        Overrides lookup (keyVariable source) id ((c.settings? source).getD .empty).apiKey s.apiKey ∧
          Overrides lookup (urlVariable source) some ((c.settings? source).getD .empty).apiUrl s.apiUrl) ∧
      (∀ source, (c'.settings? source).isSome = true ↔
        (c.settings? source).isSome = true ∨ (∃ text, Sets lookup (keyVariable source) text) ∨
          ∃ text, Sets lookup (urlVariable source) text) ∧
      (∀ source other lookup', source ≠ other →
        (∀ name, name ≠ keyVariable other → name ≠ urlVariable other → lookup' name = lookup name) →
          (c.applyEnvironment lookup').settings? source = c'.settings? source) ∧
      c'.applyEnvironment lookup = c' ∧
      (∀ source s, c'.provider source = .ok s ↔ c'.settings? source = some s ∧ s.apiKey ≠ "") ∧
      ∀ source client, Command.clientFor source c' = .ok client →
        ∃ s, c'.provider source = .ok s ∧ client.Uses source s :=
  ⟨overrides_database c lookup, fun _ _ => overrides_settings, fun source => isSome_settings?_iff c lookup source,
    fun _ _ _ hother => settings?_of_other hother, applyEnvironment_idem c lookup, fun _ _ => provider_eq_ok_iff,
    fun _ _ => ProviderClient.uses_of_clientFor⟩

end Config

namespace Sample

def ownKey : Config :=
  ⟨defaultDatabase, none, some ⟨"b2c3", some "http://[::1]//"⟩⟩

/-- A key for the service that has no settings, and none for the one that has. -/
def givenVariables (name : String) : Option String :=
  [("PAGERDUTY_API_KEY", "a1"), ("OPSGENIE_API_KEY", ""), ("DB_PATH", "")].lookup name

end Sample

/-- The addresses are the service's own and one without credentials, so the keys are sent. -/
theorem configuration_precedence_of_given :
    let c := Sample.ownKey.applyEnvironment Sample.givenVariables
    c.database = defaultDatabase ∧
      (∃ client, Command.clientFor .pagerDuty c = .ok client ∧ client.Uses .pagerDuty ⟨"a1", none⟩ ∧
        ∀ q request, client.request q = .ok request → ("authorization", "Token token=a1") ∈ request.headers) ∧
      ∃ client, Command.clientFor .opsGenie c = .ok client ∧
        client.Uses .opsGenie ⟨"b2c3", some "http://[::1]//"⟩ ∧
        ∀ q request, client.request q = .ok request → ("authorization", "GenieKey b2c3") ∈ request.headers := by
  obtain ⟨hdatabase, -, -, -, -, hprovider, hclient⟩ :=
    Config.configuration_precedence Sample.ownKey Sample.givenVariables
  have huses : ∀ source settings,
      (Sample.ownKey.applyEnvironment Sample.givenVariables).settings? source = some settings →
        settings.apiKey ≠ "" → ∃ client,
          Command.clientFor source (Sample.ownKey.applyEnvironment Sample.givenVariables) = .ok client ∧
            client.Uses source settings := by
    intro source settings hsettings hkey
    have hmade : (Command.clientFor source (Sample.ownKey.applyEnvironment Sample.givenVariables)).toOption.isSome =
        true := by
      cases source <;> decide +kernel
    obtain ⟨client, h⟩ := Option.isSome_iff_exists.mp hmade
    have hok := toOption_eq_some_iff.mp h
    obtain ⟨s, hs, huses⟩ := hclient source client hok
    obtain rfl := Except.ok.inj (hs.symm.trans ((hprovider source settings).mpr ⟨hsettings, hkey⟩))
    exact ⟨client, hok, huses⟩
  refine ⟨hdatabase.unsaid fun text h => h.2 ?_, ?_, ?_⟩
  · exact Option.some.inj (h.1.symm.trans (by decide))
  · obtain ⟨client, hok, hclient⟩ := huses .pagerDuty ⟨"a1", none⟩ (by decide +kernel) (by decide)
    have hbase := (hclient.default nofun).not_mem (d := '@') (by decide)
    refine ⟨client, hok, hclient, fun q request hrequest => ?_⟩
    rw [hclient.plain hbase q request hrequest]
    exact (hclient.key _).mpr (Or.inl ⟨rfl, rfl⟩)
  · obtain ⟨client, hok, hclient⟩ :=
      huses .opsGenie ⟨"b2c3", some "http://[::1]//"⟩ (by decide +kernel) (by decide)
    have hbase := (hclient.given _ rfl (by decide)).not_mem (d := '@') (by decide)
    refine ⟨client, hok, hclient, fun q request hrequest => ?_⟩
    rw [hclient.plain hbase q request hrequest]
    exact (hclient.key _).mpr (Or.inr ⟨rfl, rfl⟩)

namespace Sample

/-- A key, and an address with a user and a password. -/
def userSettings : ProviderSettings :=
  ⟨"a1", some "http://user:pw@[::1]"⟩

def userConfig : Config :=
  ⟨defaultDatabase, some userSettings, none⟩

/-- The address that the teams are asked for at. -/
def userTeams : Url :=
  ⟨"http".toList, "user".toList, some "pw".toList, some (.ipv6 [0, 0, 0, 0, 0, 0, 0, 1]), none,
    .segments ["teams".toList], none, none⟩

end Sample

/-- The user and the password are sent, and the key is not. -/
theorem key_not_sent_with_user :
    let c := Sample.userConfig.applyEnvironment fun _ => none
    c.provider .pagerDuty = .ok Sample.userSettings ∧
      ∃ client request, Command.clientFor .pagerDuty c = .ok client ∧ client.request .teams = .ok request ∧
        (∀ value, ("authorization", value) ∈ request.headers ↔ value = "Basic dXNlcjpwdw==") ∧
        ("authorization", "Token token=a1") ∉ request.headers := by
  have hread : Url.ofText ("http://user:pw@[::1]" ++ "/teams") = .ok Sample.userTeams := rfl
  have hcredentials : Sample.userTeams.credentials? = some ⟨"user".toList, some "pw".toList⟩ := by
    decide +kernel
  have hbasic : Credentials.basic ⟨"user".toList, some "pw".toList⟩ = "Basic dXNlcjpwdw==" := by
    decide +kernel
  let client : ProviderClient :=
    ⟨.pagerDuty, "http://user:pw@[::1]", ProviderClient.headersFor .pagerDuty Sample.userSettings⟩
  have hrequest : client.request .teams =
      .ok ⟨Sample.userTeams.withoutUser, HttpRequest.headersAt Sample.userTeams client.headers⟩ := by
    show HttpRequest.ofText client.headers ("http://user:pw@[::1]" ++ "/teams") = _
    unfold HttpRequest.ofText
    rw [hread]
    rfl
  have hsent : ∀ value, ("authorization", value) ∈ HttpRequest.headersAt Sample.userTeams client.headers ↔
      value = "Basic dXNlcjpwdw==" := fun value => hbasic ▸ HttpRequest.authorization_headersAt _ hcredentials value
  refine ⟨rfl, client, _, rfl, hrequest, hsent, fun h => ?_⟩
  exact absurd ((hsent _).mp h) (by decide)

end OutageLedger
