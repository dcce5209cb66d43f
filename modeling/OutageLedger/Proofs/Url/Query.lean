import Mathlib.Data.List.TakeWhile
import OutageLedger.Proofs.Url.Reader

/-
  Addresses without a query. What each part of the reader leaves to the next one is an end of what it was given,
  so a question mark or a number sign that marks a query or a fragment stands in the text itself. Main statement:
  `endsWithPath_of_ofText`, a text without these marks is read as an address without query and fragment.
-/

namespace OutageLedger.Url

/-- No character begins a query or a fragment. -/
def IsUnmarked (cs : List Char) : Prop :=
  ∀ c ∈ cs, endsPath c = false

theorem IsUnmarked.mono {cs ds : List Char} (h : IsUnmarked cs) (hsubset : ds ⊆ cs) : IsUnmarked ds :=
  fun c hc => h c (hsubset hc)

/-- There is no query and no fragment. -/
def EndsWithPath (u : Url) : Prop :=
  u.query = none ∧ u.fragment = none

theorem endsWithPath_withRest {cs : List Char} (h : IsUnmarked cs) (u : Url) (special : Bool) (path : UrlPath) :
    (u.withRest special path cs).EndsWithPath := by
  have hrest : cs.dropWhile (fun c => !endsPath c) = [] := by
    rw [List.dropWhile_eq_nil_iff]
    intro c hc
    rw [h c hc]
    rfl
  unfold withRest
  rw [hrest]
  exact ⟨rfl, rfl⟩

/-! ## What is left to read -/

theorem clean_subset (cs : List Char) : clean cs ⊆ cs := by
  unfold clean
  intro c hc
  have hc := List.mem_reverse.mp (List.mem_filter.mp hc).1
  exact (List.dropWhile_suffix _).subset (List.mem_reverse.mp ((List.dropWhile_suffix _).subset hc))

theorem splitScheme?_subset {cs scheme rest : List Char} (h : splitScheme? cs = some (scheme, rest)) : rest ⊆ cs := by
  unfold splitScheme? at h
  split at h
  · rename_i heq
    split at h
    · cases h
      exact List.Subset.trans (List.subset_cons_self _ _) (heq ▸ (List.dropWhile_suffix _).subset)
    · cases h
  · cases h

theorem userInfo_subset {special : Bool} {cs : List Char} {info : UserInfo} (h : userInfo special cs = .ok info) :
    info.rest ⊆ cs := by
  unfold userInfo at h
  dsimp only at h
  split at h
  · rw [ite_error_eq_ok_iff] at h
    obtain ⟨-, h⟩ := h
    cases h
    exact List.drop_subset _ _
  · cases h
    exact List.Subset.refl _

theorem portOf_subset {scheme cs rest : List Char} {n : Option Nat} (h : portOf scheme cs = .ok (n, rest)) :
    rest ⊆ cs := by
  unfold portOf at h
  split at h
  · rw [ite_error_eq_ok_iff] at h
    obtain ⟨-, h⟩ := h
    split at h
    · cases h
      exact List.Subset.trans (List.dropWhile_suffix _).subset (List.subset_cons_self _ _)
    · cases h
  · cases h
    exact List.Subset.refl _

/-! ## The whole -/

section

variable {scheme cs : List Char} {u : Url}

theorem endsWithPath_of_afterSlashes (h : afterSlashes scheme cs = .ok u) (hcs : IsUnmarked cs) :
    u.EndsWithPath := by
  unfold afterSlashes at h
  simp only [bind_eq_ok_iff, ite_error_eq_ok_iff] at h
  obtain ⟨info, hinfo, -, h⟩ := h
  have hinfo := hcs.mono (userInfo_subset hinfo)
  split at h
  all_goals
    simp only [bind_eq_ok_iff, ite_error_eq_ok_iff, Except.ok.injEq] at h
    obtain ⟨host, -, -, ⟨portNumber, rest⟩, hport, -, rfl⟩ := h
    exact endsWithPath_withRest ((hinfo.mono (List.drop_subset _ _)).mono (portOf_subset hport)) _ _ _

theorem endsWithPath_afterColon (hcs : IsUnmarked cs) : (afterColon scheme cs).EndsWithPath := by
  unfold afterColon
  dsimp only
  split <;> exact endsWithPath_withRest hcs _ _ _

theorem endsWithPath_of_afterFile (h : afterFile scheme cs = .ok u) (hcs : IsUnmarked cs) : u.EndsWithPath := by
  unfold afterFile at h
  simp only [bind_eq_ok_iff, Except.ok.injEq] at h
  obtain ⟨host, -, rfl⟩ := h
  apply endsWithPath_withRest
  have hafter := hcs.mono (List.drop_subset (min (cs.takeWhile isSlash).length 2) cs)
  -- before a drive the whole is left to read
  generalize (if (cs.takeWhile isSlash).length < 2 then [] else _) = hostText
  split
  · exact hafter
  · exact hafter.mono (List.drop_subset _ _)

theorem endsWithPath_of_ofText {s : String} (h : ofText s = .ok u) (hs : IsUnmarked s.toList) : u.EndsWithPath := by
  have hclean := hs.mono (clean_subset s.toList)
  unfold ofText at h
  split at h
  · cases h
  rename_i scheme rest hscheme
  have hrest := hclean.mono (splitScheme?_subset hscheme)
  split at h
  · exact endsWithPath_of_afterFile h hrest
  split at h
  · exact endsWithPath_of_afterSlashes h (hrest.mono (List.dropWhile_suffix _).subset)
  split at h
  · exact endsWithPath_of_afterSlashes h
      (hrest.mono (List.Subset.trans (List.subset_cons_self _ _) (List.subset_cons_self _ _)))
  · cases h
    exact endsWithPath_afterColon hrest

end

end OutageLedger.Url
