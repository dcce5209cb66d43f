import OutageLedger.Http.Request
import OutageLedger.Proofs.Url.Query

/-
  Credentials in an address. They are taken off it and become a header of the request, which goes before the
  header of the client with the same name (`HttpRequest.authorization_headersAt`); all else is left as it is.
  Main statement: `Url.credentials?_of_ofText`, an address without an `@` in it has no credentials.
-/

namespace OutageLedger

open Text

namespace Url

/-! ## Addresses without them -/

/-- There is neither a user nor a password. -/
def HasNoUser (u : Url) : Prop :=
  u.username = [] ∧ u.password = none

theorem HasNoUser.credentials? {u : Url} (h : u.HasNoUser) : u.credentials? = none := by
  unfold Url.credentials?
  rw [h.1, h.2, show decoded? [] = some [] from Utf8.decode_encode []]
  rfl

section

variable {scheme cs : List Char} {u : Url}

theorem userInfo_of_not_mem (special : Bool) (h : '@' ∉ cs) : userInfo special cs = .ok ⟨[], none, cs⟩ := by
  have hnone : ¬(cs.takeWhile fun c => !endsAuthority special c).contains '@' = true := fun hmem =>
    h ((List.takeWhile_subset _) (List.contains_iff_mem.mp hmem))
  unfold userInfo
  exact if_neg hnone

theorem hasNoUser_of_afterSlashes (h : afterSlashes scheme cs = .ok u) (hcs : '@' ∉ cs) : u.HasNoUser := by
  unfold afterSlashes at h
  simp only [userInfo_of_not_mem _ hcs, bind_eq_ok_iff, ite_error_eq_ok_iff, Except.ok.injEq] at h
  obtain ⟨info, rfl, -, h⟩ := h
  split at h
  all_goals
    simp only [bind_eq_ok_iff, ite_error_eq_ok_iff, Except.ok.injEq] at h
    obtain ⟨host, -, -, number, -, -, rfl⟩ := h
    exact ⟨rfl, rfl⟩

theorem hasNoUser_afterColon : (afterColon scheme cs).HasNoUser := by
  unfold afterColon
  dsimp only
  split <;> exact ⟨rfl, rfl⟩

theorem hasNoUser_of_afterFile (h : afterFile scheme cs = .ok u) : u.HasNoUser := by
  unfold afterFile at h
  simp only [bind_eq_ok_iff, Except.ok.injEq] at h
  obtain ⟨host, -, rfl⟩ := h
  exact ⟨rfl, rfl⟩

/-- What is before an `@` is read as user and password, and nothing else is. -/
theorem hasNoUser_of_ofText {s : String} (h : ofText s = .ok u) (hs : '@' ∉ s.toList) : u.HasNoUser := by
  unfold ofText at h
  split at h
  · cases h
  rename_i scheme rest hscheme
  have hrest : '@' ∉ rest := fun hmem => hs (clean_subset _ (splitScheme?_subset hscheme hmem))
  split at h
  · exact hasNoUser_of_afterFile h
  split at h
  · exact hasNoUser_of_afterSlashes h fun hmem => hrest ((List.dropWhile_suffix _).subset hmem)
  split at h
  · exact hasNoUser_of_afterSlashes h fun hmem =>
      hrest (List.mem_cons_of_mem _ (List.mem_cons_of_mem _ hmem))
  · cases h
    exact hasNoUser_afterColon

end

theorem credentials?_of_ofText {s : String} {u : Url} (h : ofText s = .ok u) (hs : '@' ∉ s.toList) :
    u.credentials? = none :=
  (hasNoUser_of_ofText h hs).credentials?

/-! ## Addresses with them -/

theorem HasNoUser.withoutUser {u : Url} (h : u.HasNoUser) : u.withoutUser = u := by
  unfold Url.withoutUser
  rw [h.credentials?]
  rfl

theorem withoutUser_path (u : Url) (path : UrlPath) :
    ({ u with path } : Url).withoutUser = { u.withoutUser with path } := by
  show (if u.credentials?.isSome then _ else _) = _
  unfold withoutUser
  split <;> rfl

/-- Credentials are before the path. -/
theorem withoutUser_keeps (u : Url) :
    u.withoutUser.path = u.path ∧ u.withoutUser.query = u.query ∧ u.withoutUser.fragment = u.fragment := by
  unfold withoutUser
  split <;> exact ⟨rfl, rfl, rfl⟩

end Url

/-! ## Requests -/

namespace HttpRequest

variable {u : Url} (headers : List (String × String))

theorem headersAt_of_none (h : u.credentials? = none) : headersAt u headers = headers := by
  unfold headersAt
  rw [h]

/-- The credentials are sent, and what the client would send in the same header is not. -/
theorem authorization_headersAt {c : Credentials} (h : u.credentials? = some c) (value : String) :
    ("authorization", value) ∈ headersAt u headers ↔ value = c.basic := by
  unfold headersAt
  rw [h]
  simp [List.mem_filter]

end HttpRequest

end OutageLedger
