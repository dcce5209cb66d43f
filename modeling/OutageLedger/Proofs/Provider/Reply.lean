import OutageLedger.Provider.Service

/-
  What a reply to a request for a page comes to: a page, if it is a success with a body that reads as one
  (`answer_of_page`), or an error whose kind says what was wrong with it (`rejects_of_no_page`). A client
  whose address takes the path of the list asks for every page (`answer_ofClient_page`).
-/

namespace OutageLedger

deriving instance DecidableEq for ReportPage

/-- The page in a reply, if it is a success with a body that reads as one. -/
def Source.pageOfReply? (source : Source) : HttpReply → Option ReportPage
  | .answer status (some bytes) => if isSuccess status then source.pageOfBytes? bytes else none
  | _ => none

/-- The error is of the kind that a reply without a page calls for: the key is not accepted, or the status
is another one that is no success, or the body does not read as a page, or there is no whole reply. -/
def Source.Rejects (source : Source) (reply : HttpReply) (e : ProviderError) : Prop :=
  match reply with
  | .none _ => ∃ detail, e = .transport source detail
  | .answer status body =>
    if status = 401 ∨ status = 403 then ∃ text, e = .auth source status text
    else if ¬(200 ≤ status ∧ status < 300) then ∃ text, e = .api source status text
    else match body with
      | some _ => ∃ detail, e = .decode source detail
      | none => ∃ detail, e = .transport source detail

namespace Source

variable {source : Source} {reply : HttpReply} {r : FetchRequest}

theorem isSuccess_iff {status : Nat} : isSuccess status = true ↔ 200 ≤ status ∧ status < 300 := by
  unfold isSuccess
  rw [Bool.and_eq_true, decide_eq_true_iff, decide_eq_true_iff]

theorem body_of_success (source : Source) {status : Nat} (h : isSuccess status = true) (bytes : List UInt8) :
    source.body (.answer status (some bytes)) = .ok bytes :=
  if_pos h

theorem body_of_broken_off (source : Source) {status : Nat} (h : isSuccess status = true) :
    ∃ detail, source.body (.answer status none) = .error (.transport source detail) :=
  ⟨_, if_pos h⟩

theorem body_of_refusal (source : Source) {status : Nat} (h : isSuccess status = false)
    (body : Option (List UInt8)) :
    ∃ text, source.body (.answer status body) = .error (source.refusal status text) :=
  ⟨_, if_neg (Bool.eq_false_iff.mp h)⟩

/-- What stands in the way of a body is reported for any page as it is. -/
theorem answer_of_body_error {e : ProviderError} (h : source.body reply = .error e) :
    source.answer (.page r) reply = .error e := by
  unfold answer
  rw [h]
  rfl

theorem answer_of_body {bytes : List UInt8} (h : source.body reply = .ok bytes) :
    source.answer (.page r) reply =
      source.decoded ((source.pageOfBytes? bytes).map (·.alertPage source r.teamIds)) := by
  unfold answer
  rw [h]
  rfl

theorem answer_of_page {page : ReportPage} (h : source.pageOfReply? reply = some page) :
    source.answer (.page r) reply = .ok (page.alertPage source r.teamIds) := by
  unfold pageOfReply? at h
  split at h
  · split at h
    · rename_i hsuccess
      rw [answer_of_body (body_of_success source hsuccess _), h]
      rfl
    · cases h
  · cases h

theorem rejects_refusal {status : Nat} (h : ¬(200 ≤ status ∧ status < 300)) (body : Option (List UInt8))
    (text : String) : source.Rejects (.answer status body) (source.refusal status text) := by
  unfold Rejects refusal
  by_cases hkey : status = 401 ∨ status = 403
  · simp only [if_pos hkey]
    exact ⟨text, rfl⟩
  · simp only [if_neg hkey, if_pos h]
    exact ⟨text, rfl⟩

theorem rejects_success {status : Nat} (h : 200 ≤ status ∧ status < 300) {body : Option (List UInt8)}
    {e : ProviderError} (he : match body with
      | some _ => ∃ detail, e = .decode source detail
      | none => ∃ detail, e = .transport source detail) :
    source.Rejects (.answer status body) e := by
  have hkey : ¬(status = 401 ∨ status = 403) := by
    omega
  unfold Rejects
  simp only [if_neg hkey, if_neg (not_not_intro h)]
  exact he

/-- A reply without a page is an error, of the kind that says why. -/
theorem rejects_of_no_page (h : source.pageOfReply? reply = none) :
    ∃ e, source.answer (.page r) reply = .error e ∧ source.Rejects reply e := by
  cases reply with
  | none detail => exact ⟨.transport source detail, rfl, detail, rfl⟩
  | answer status body =>
    cases hsuccess : isSuccess status with
    | false =>
      have hrange : ¬(200 ≤ status ∧ status < 300) := fun hin =>
        Bool.false_ne_true (hsuccess.symm.trans (isSuccess_iff.mpr hin))
      obtain ⟨text, hbody⟩ := body_of_refusal source hsuccess body
      exact ⟨_, answer_of_body_error hbody, rejects_refusal hrange body text⟩
    | true =>
      have hrange := isSuccess_iff.mp hsuccess
      cases body with
      | none =>
        obtain ⟨detail, hbody⟩ := body_of_broken_off source hsuccess
        exact ⟨_, answer_of_body_error hbody, rejects_success hrange ⟨detail, rfl⟩⟩
      | some bytes =>
        have hnone : source.pageOfBytes? bytes = none := (if_pos hsuccess).symm.trans h
        refine ⟨.decode source "unexpected body", ?_, rejects_success hrange ⟨_, rfl⟩⟩
        rw [answer_of_body (body_of_success source hsuccess bytes), hnone]
        rfl

end Source

theorem mapM_pair? (pairs : List (String × String)) :
    (pairs.map fun (name, value) => QueryItem.pair name value).mapM QueryItem.pair? = some pairs := by
  induction pairs with
  | nil => rfl
  | cons p ps ih =>
    rw [List.map_cons, List.mapM_cons, ih]
    rfl

/-- The request for a page is the one for the list, with the parameters in its query. -/
theorem ProviderClient.request_page {c : ProviderClient} {list : HttpRequest}
    (h : c.get c.source.listPath = .ok list) (r : FetchRequest) :
    c.request (.page r) = .ok { list with url := list.url.withPairs (c.source.listQuery r) } := by
  unfold request
  rw [h]
  show list.withQuery _ = _
  unfold HttpRequest.withQuery
  rw [mapM_pair?]

/-- A client with a good address sends a request for any page, and answers what the reply comes to. -/
theorem answer_ofClient_page {τ : Type} {c : ProviderClient}
    (h : (c.get c.source.listPath).isOk = true) (send : Transport τ) (r : FetchRequest) (x : τ) :
    ∃ sent : HttpRequest, ∃ remarks, (Provider.ofClient c send).answer (.page r) x =
      (c.source.answer (.page r) (send sent x).1, remarks, (send sent x).2) := by
  obtain ⟨sent, hsent⟩ : ∃ sent, c.request (.page r) = .ok sent := by
    obtain ⟨request, hrequest⟩ : ∃ request, c.get c.source.listPath = .ok request := by
      cases hget : c.get c.source.listPath with
      | ok request => exact ⟨request, rfl⟩
      | error e =>
        rw [hget] at h
        cases h
    exact ⟨_, ProviderClient.request_page hrequest r⟩
  refine ⟨sent, c.source.remarks (.page r) (send sent x).1, ?_⟩
  unfold Provider.ofClient
  simp only [hsent]

end OutageLedger
