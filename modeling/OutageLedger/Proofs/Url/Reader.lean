import OutageLedger.Proofs.Except
import OutageLedger.Url.Reader

/-
  What is read as an address. Schemes that are special and no files have a host, which is not empty, and a path
  that is a list of segments, of which there is one at least. Main statement: `hosted_of_ofText`.
-/

namespace OutageLedger

open Text

namespace Url

/-! ## Hosts -/

theorem ne_empty_of_ipv6Host {cs : List Char} {host : Host} (h : ipv6Host cs = .ok host) : host ≠ .domain [] := by
  rintro rfl
  unfold ipv6Host at h
  split at h
  · split at h <;> cases h
  · cases h

theorem ne_empty_of_specialHost {cs : List Char} {host : Host} (h : specialHost cs = .ok host) :
    host ≠ .domain [] := by
  unfold specialHost at h
  split at h
  · exact ne_empty_of_ipv6Host h
  split at h
  · cases h
  · cases h
  · rename_i hname _
    split at h
    · split at h <;> cases h
      exact Host.noConfusion
    · cases h
      rintro ⟨rfl⟩
      exact hname rfl

/-! ## Paths -/

/-- A path ends with what its last segment has become. -/
theorem resolve_ne_nil (done : List (List Char)) {segs : List (List Char)} (h : segs ≠ []) :
    resolve done segs ≠ [] := by
  fun_induction resolve done segs with
  | case1 => exact absurd rfl h
  | case2 done s habove => simp
  | case3 done s habove hhere => simp
  | case4 done s habove hhere => simp
  | case5 done s ss hss habove ih => exact ih hss
  | case6 done s ss hss habove hhere ih => exact ih hss
  | case7 done s ss hss habove hhere ih => exact ih hss

theorem segmentsOf_ne_nil (special : Bool) (cs : List Char) : segmentsOf special cs ≠ [] := by
  apply resolve_ne_nil
  rw [ne_eq, List.map_eq_nil_iff]
  exact List.splitOnP_ne_nil _ cs

theorem pathAfterHost_ne_nil (cs : List Char) : pathAfterHost true cs ≠ [] := by
  unfold pathAfterHost
  split
  · simp
  · split <;> exact segmentsOf_ne_nil true _

/-! ## The whole -/

/-- It has a host and a segment at least. -/
def IsHosted (u : Url) : Prop :=
  u.hasHost = true ∧ ∃ segs, segs ≠ [] ∧ u.path = .segments segs

section

variable {scheme cs : List Char} {u : Url}

theorem scheme_of_afterSlashes (h : afterSlashes scheme cs = .ok u) : u.scheme = scheme := by
  unfold afterSlashes at h
  simp only [bind_eq_ok_iff, ite_error_eq_ok_iff] at h
  obtain ⟨info, -, -, h⟩ := h
  split at h
  all_goals
    simp only [bind_eq_ok_iff, ite_error_eq_ok_iff, Except.ok.injEq] at h
    obtain ⟨host, -, -, number, -, -, rfl⟩ := h
    rfl

theorem hosted_of_afterSlashes (hspecial : isSpecial scheme = true) (h : afterSlashes scheme cs = .ok u) :
    u.IsHosted := by
  unfold afterSlashes at h
  simp only [hspecial, if_true, bind_eq_ok_iff, ite_error_eq_ok_iff, Except.ok.injEq] at h
  obtain ⟨info, -, -, host, hhost, -, ⟨portNumber, rest⟩, -, -, rfl⟩ := h
  have hne := ne_empty_of_specialHost hhost
  refine ⟨?_, _, pathAfterHost_ne_nil rest, rfl⟩
  show hasHost { empty scheme with host := some host } = true
  unfold hasHost
  split
  · contradiction
  · rename_i heq
    exact absurd (Option.some.inj heq) hne
  · rfl

theorem scheme_of_afterFile (h : afterFile scheme cs = .ok u) : u.scheme = scheme := by
  unfold afterFile at h
  simp only [bind_eq_ok_iff, Except.ok.injEq] at h
  obtain ⟨host, -, rfl⟩ := h
  rfl

theorem scheme_afterColon : (afterColon scheme cs).scheme = scheme := by
  unfold afterColon
  dsimp only
  split <;> rfl

/-- A scheme that is served at a number of its own is special and no file. -/
theorem hosted_of_ofText {s : String} (h : ofText s = .ok u) (hport : (defaultPort? u.scheme).isSome = true) :
    u.IsHosted := by
  unfold ofText at h
  split at h
  · cases h
  rename_i scheme rest _
  split at h
  · rename_i hfile
    rw [scheme_of_afterFile h, eq_of_beq hfile] at hport
    cases hport
  split at h
  · rename_i hspecial
    exact hosted_of_afterSlashes hspecial h
  rename_i hspecial
  have hother : u.scheme = scheme := by
    split at h
    · exact scheme_of_afterSlashes h
    · cases h
      exact scheme_afterColon
  rw [hother] at hport
  unfold isSpecial at hspecial
  simp [hport] at hspecial

end

end Url

end OutageLedger
