import OutageLedger.Proofs.Http.Credentials
import OutageLedger.Proofs.Provider.Reply
import OutageLedger.Proofs.Text.Form

/-
  Requests for a page. The address of a list has no query of its own, so the query of a request is the form of its
  parameters and nothing else. Main statement: `list_parameters_kept`, the parameters are read back from the query
  of a request as they were put in, whatever the ids of the teams.
-/

namespace OutageLedger

open Text

namespace Source

variable (source : Source) (r : FetchRequest)

/-- Where each name has its values from, for the service that is sent times and ids of teams. -/
theorem valuesOf_pagerDuty (name : String) :
    Form.valuesOf (pagerDuty.listQuery r) name =
      (if "since" = name then [r.since.zuluSecond] else []) ++
        (if "until" = name then r.upTo.toList.map Instant.zuluSecond else []) ++
        (if "team_ids[]" = name then r.teamIds else []) ++
        Form.valuesOf [("limit", r.limitText), ("offset", r.offsetText)] name := by
  unfold listQuery
  rw [Form.valuesOf_append, Form.valuesOf_append, Form.valuesOf_append, Form.valuesOf_map,
    Form.valuesOf_map "team_ids[]" name fun id => id, List.map_id', Form.valuesOf_cons, Form.valuesOf_nil]

theorem valuesOf_limit : Form.valuesOf (source.listQuery r) "limit" = [r.limitText] := by
  cases source with
  | pagerDuty => simp [valuesOf_pagerDuty]
  | opsGenie => simp [listQuery]

theorem valuesOf_offset : Form.valuesOf (source.listQuery r) "offset" = [r.offsetText] := by
  cases source with
  | pagerDuty => simp [valuesOf_pagerDuty]
  | opsGenie => simp [listQuery]

theorem valuesOf_teamIds : Form.valuesOf (pagerDuty.listQuery r) "team_ids[]" = r.teamIds := by
  simp [valuesOf_pagerDuty]

theorem listQuery_ne_nil : source.listQuery r ≠ [] := by
  cases source <;> simp [listQuery]

theorem isUnmarked_listPath : Url.IsUnmarked source.listPath.toList := by
  unfold Url.IsUnmarked
  cases source <;> simp [listPath, Url.endsPath]

end Source

/-- An address without a query takes the form of the pairs as its query. -/
theorem Url.withPairs_of_no_query {u : Url} (h : u.query = none) {pairs : List (String × String)} (hne : pairs ≠ []) :
    u.withPairs pairs = { u with query := some (Form.encode pairs) } := by
  have hform : (Form.encode pairs).isEmpty = false := by
    simpa using Form.encode_ne_nil hne
  unfold withPairs
  rw [h]
  simp [hform]

/-- On every base without a question mark and a number sign under which the address of the list is good, for
either service: the parameters of every request for a page are read back from its query as they were put in, one
after the other. Limit and offset stand there once, and all ids of teams where they are sent. The rest of the
address is that of the list, with its path and without a fragment; credentials in it go into a header when the
request is made. -/
theorem list_parameters_kept {c : ProviderClient} {u : Url} (hbase : ∀ d ∈ c.baseUrl.toList, d ≠ '?' ∧ d ≠ '#')
    (hlist : Url.ofText (c.baseUrl ++ c.source.listPath) = .ok u) (hhost : u.hasHost = true) (r : FetchRequest) :
    ∃ request query, c.request (.page r) = .ok request ∧
      request.url = { u.withoutUser with query := some query } ∧
      request.url.path = u.path ∧ request.url.fragment = none ∧
      Form.decode query = c.source.listQuery r ∧
      Form.valuesOf (Form.decode query) "limit" = [natText r.effectiveLimit.toNat] ∧
      Form.valuesOf (Form.decode query) "offset" = [natText r.offset.toNat] ∧
      (c.source = .pagerDuty → Form.valuesOf (Form.decode query) "team_ids[]" = r.teamIds) := by
  have hunmarked : Url.IsUnmarked (c.baseUrl ++ c.source.listPath).toList := by
    intro d hd
    rw [String.toList_append, List.mem_append] at hd
    rcases hd with hd | hd
    · simpa [Url.endsPath] using hbase d hd
    · exact c.source.isUnmarked_listPath d hd
  obtain ⟨hquery, hfragment⟩ := Url.endsWithPath_of_ofText hlist hunmarked
  have hget : c.get c.source.listPath = .ok ⟨u.withoutUser, HttpRequest.headersAt u c.headers⟩ := by
    unfold ProviderClient.get HttpRequest.ofText
    rw [hlist]
    exact if_pos hhost
  obtain ⟨hpath, hquery', hfragment'⟩ := u.withoutUser_keeps
  have hform : u.withoutUser.withPairs (c.source.listQuery r) =
      { u.withoutUser with query := some (Form.encode (c.source.listQuery r)) } :=
    Url.withPairs_of_no_query (hquery'.trans hquery) (c.source.listQuery_ne_nil r)
  have hread := Form.decode_encode (c.source.listQuery r)
  refine ⟨_, _, ProviderClient.request_page hget r, hform, ?_, ?_, hread, ?_, ?_, ?_⟩
  · rw [hform]
    exact hpath
  · rw [hform]
    exact hfragment'.trans hfragment
  · rw [hread]
    exact c.source.valuesOf_limit r
  · rw [hread]
    exact c.source.valuesOf_offset r
  · intro hsource
    rw [hread, hsource]
    exact Source.valuesOf_teamIds r

namespace Sample

/-- Ids of teams with the marks of a form in them. -/
def markedIds : List String :=
  ["a&limit=1", "50%+ #1", "ü=?"]

/-- All from a leap second on, as the last page of all. -/
def markedRequest : FetchRequest :=
  ⟨(Instant.ofParts? 1483228799 1000000000).getD .epoch, none, markedIds, 0, 4294967295⟩

/-- A base with a user and a question mark by its code. -/
def markedClient : ProviderClient :=
  ⟨.pagerDuty, "http://user:pw@[::1]/a%3Fb", []⟩

/-- The address of the list under that base. -/
def markedList : Url :=
  ⟨"http".toList, "user".toList, some "pw".toList, some (.ipv6 [0, 0, 0, 0, 0, 0, 0, 1]), none,
    .segments ["a%3Fb".toList, "incidents".toList], none, none⟩

end Sample

/-- Ids that look like a limit of their own, or like the end of the query. -/
theorem list_parameters_kept_of_marks :
    (∀ d ∈ Sample.markedClient.baseUrl.toList, d ≠ '?' ∧ d ≠ '#') ∧
      Url.ofText (Sample.markedClient.baseUrl ++ Sample.markedClient.source.listPath) = .ok Sample.markedList ∧
      Sample.markedList.hasHost = true ∧
      ∃ request query, Sample.markedClient.request (.page Sample.markedRequest) = .ok request ∧
        request.url = { Sample.markedList with username := [], password := none, query := some query } ∧
        Form.valuesOf (Form.decode query) "team_ids[]" = Sample.markedIds ∧
        Form.valuesOf (Form.decode query) "limit" = [natText 100] ∧
        Form.valuesOf (Form.decode query) "offset" = [natText 4294967295] := by
  have hbase : ∀ d ∈ Sample.markedClient.baseUrl.toList, d ≠ '?' ∧ d ≠ '#' := by
    simp [Sample.markedClient]
  have hlist : Url.ofText (Sample.markedClient.baseUrl ++ Sample.markedClient.source.listPath) =
      .ok Sample.markedList := rfl
  have hwithout : Sample.markedList.withoutUser = { Sample.markedList with username := [], password := none } := by
    decide +kernel
  obtain ⟨request, query, hrequest, hurl, -, -, -, hlimit, hoffset, hteams⟩ :=
    list_parameters_kept hbase hlist rfl Sample.markedRequest
  rw [hwithout] at hurl
  exact ⟨hbase, hlist, rfl, request, query, hrequest, hurl, hteams rfl, hlimit, hoffset⟩

end OutageLedger
