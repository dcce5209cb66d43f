import OutageLedger.Proofs.Text.Percent
import OutageLedger.Url.Reader

/-
  Further segments on a path. A segment that is put on a path has its percent signs encoded, so no spelling of a
  dot by its code gets into it: only `.` is read as `.`, and only `..` as `..` (`isHere_percentEncode`,
  `isAbove_percentEncode`). Main statements: `extend?_concat`, the path that names and a further segment lead to,
  and `place_injective`, two segments lead to one path only if the same is left of them.
-/

namespace OutageLedger

open Text

/-! ## Small and capital letters -/

namespace Text

theorem toNat_toLower (c : Char) :
    c.toLower.toNat = if 65 ≤ c.toNat ∧ c.toNat ≤ 90 then c.toNat + 32 else c.toNat := by
  have hcapital : c.val ≥ 'A'.val ∧ c.val ≤ 'Z'.val ↔ 65 ≤ c.toNat ∧ c.toNat ≤ 90 := Iff.rfl
  unfold Char.toLower
  split
  · rename_i h
    rw [if_pos (hcapital.mp h)]
    have hle : c.val.toNat ≤ 90 := (hcapital.mp h).2
    show (c.val + 32).toNat = c.val.toNat + 32
    rw [UInt32.toNat_add, Nat.mod_eq_of_lt]
    · rfl
    · show c.val.toNat + 32 < 2 ^ 32
      omega
  · rename_i h
    rw [if_neg (mt hcapital.mpr h)]

/-- Below the small letters a character is its own small form, and no other's. -/
theorem eq_of_toLower_eq {c d : Char} (h : c.toLower = d) (hd : d.toNat < 97) : c = d := by
  have hnat := toNat_toLower c
  rw [h] at hnat
  apply Char.ext
  apply UInt32.toNat_inj.mp
  show c.toNat = d.toNat
  split at hnat
  · omega
  · exact hnat.symm

theorem hexDigitValue_toLower (c : Char) : hexDigitValue? c.toLower = hexDigitValue? c := by
  unfold hexDigitValue?
  simp only [toNat_toLower]
  split
  · rename_i hcapital
    by_cases hdigit : c.toNat ≤ 70
    · rw [if_neg (by omega), if_pos (by omega), if_neg (by omega), if_neg (by omega), if_pos (by omega)]
      congr 1
    · rw [if_neg (by omega), if_neg (by omega), if_neg (by omega), if_neg (by omega), if_neg (by omega),
        if_neg (by omega)]
  · rfl

end Text

namespace Url

/-! ## Segments that are read as dots -/

/-- A dot, also by its code, denotes a dot. -/
theorem percentDecode_of_dot {dot rest cs : List Char} (hdot : dot = ['.'] ∨ dot = ['%', '2', 'e'])
    (h : cs.map Char.toLower = dot ++ rest) :
    ∃ ds, ds.map Char.toLower = rest ∧ percentDecode cs = 0x2E :: percentDecode ds := by
  rcases hdot with rfl | rfl
  · obtain ⟨c, ds, rfl, hc, hds⟩ := List.map_eq_cons_iff.mp h
    obtain rfl := eq_of_toLower_eq hc (by decide)
    exact ⟨ds, hds, percentDecode_cons_of_ne (by decide) ds⟩
  · obtain ⟨c₁, cs, rfl, hc₁, h⟩ := List.map_eq_cons_iff.mp h
    obtain ⟨c₂, cs, rfl, hc₂, h⟩ := List.map_eq_cons_iff.mp h
    obtain ⟨c₃, ds, rfl, hc₃, hds⟩ := List.map_eq_cons_iff.mp h
    obtain rfl := eq_of_toLower_eq hc₁ (by decide)
    obtain rfl := eq_of_toLower_eq hc₂ (by decide)
    have hvalue : hexDigitValue? c₃ = some 14 := by
      rw [← hexDigitValue_toLower, hc₃]
      rfl
    refine ⟨ds, hds, ?_⟩
    rw [percentDecode, hvalue]
    rfl

theorem percentDecode_of_isHere {cs : List Char} (h : isHere cs = true) : percentDecode cs = [0x2E] := by
  have hforms : ∃ dot, (dot = ['.'] ∨ dot = ['%', '2', 'e']) ∧ cs.map Char.toLower = dot ++ [] := by
    unfold isHere at h
    simp only [List.contains_eq_mem, decide_eq_true_eq, List.mem_cons, List.not_mem_nil, or_false] at h
    rcases h with h | h
    · exact ⟨_, Or.inl rfl, String.ofList_injective h⟩
    · exact ⟨_, Or.inr rfl, String.ofList_injective h⟩
  obtain ⟨dot, hdot, hcs⟩ := hforms
  obtain ⟨ds, hds, hdecode⟩ := percentDecode_of_dot hdot hcs
  rw [hdecode, List.map_eq_nil_iff.mp hds]
  rfl

theorem percentDecode_of_isAbove {cs : List Char} (h : isAbove cs = true) :
    percentDecode cs = [0x2E, 0x2E] := by
  have hforms : ∃ dot dot', (dot = ['.'] ∨ dot = ['%', '2', 'e']) ∧ (dot' = ['.'] ∨ dot' = ['%', '2', 'e']) ∧
      cs.map Char.toLower = dot ++ (dot' ++ []) := by
    unfold isAbove at h
    simp only [List.contains_eq_mem, decide_eq_true_eq, List.mem_cons, List.not_mem_nil, or_false] at h
    rcases h with h | h | h | h
    · exact ⟨_, _, Or.inl rfl, Or.inl rfl, String.ofList_injective h⟩
    · exact ⟨_, _, Or.inr rfl, Or.inr rfl, String.ofList_injective h⟩
    · exact ⟨_, _, Or.inr rfl, Or.inl rfl, String.ofList_injective h⟩
    · exact ⟨_, _, Or.inl rfl, Or.inr rfl, String.ofList_injective h⟩
  obtain ⟨dot, dot', hdot, hdot', hcs⟩ := hforms
  obtain ⟨ds, hds, hfirst⟩ := percentDecode_of_dot hdot hcs
  obtain ⟨es, hes, hsecond⟩ := percentDecode_of_dot hdot' hds
  rw [hfirst, hsecond, List.map_eq_nil_iff.mp hes]
  rfl

section

variable {special : Bool} {cs : List Char}

theorem inSegment_percent : inSegment special '%' = true := by
  cases special <;> rfl

theorem isHere_percentEncode : isHere (percentEncode (inSegment special) cs) = true ↔ cs = ['.'] := by
  constructor
  · intro h
    apply Utf8.encode_injective
    rw [← percentDecode_percentEncode inSegment_percent, percentDecode_of_isHere h]
    rfl
  · rintro rfl
    cases special <;> rfl

theorem isAbove_percentEncode : isAbove (percentEncode (inSegment special) cs) = true ↔ cs = ['.', '.'] := by
  constructor
  · intro h
    apply Utf8.encode_injective
    rw [← percentDecode_percentEncode inSegment_percent, percentDecode_of_isAbove h]
    rfl
  · rintro rfl
    cases special <;> rfl

end

/-! ## A further segment -/

/-- What of a segment is passed on: all but tabs and line breaks. -/
def passed (segment : String) : List Char :=
  segment.toList.filter (!isLineMark ·)

/-- What is left of a further segment: nothing of `.` and `..`, and an empty segment of a longer one of which a
single dot is passed on. -/
def settled (segment : String) : Option (List Char) :=
  if segment = "." ∨ segment = ".." then none
  else some (if passed segment = ['.'] then [] else passed segment)

/-- The path with what is left of a segment. Two dots go up. -/
def place (special : Bool) (segs : List (List Char)) : Option (List Char) → List (List Char)
  | none => segs
  | some cs =>
    if cs = ['.', '.'] then shorten (stem segs) ++ [[]]
    else stem segs ++ [percentEncode (inSegment special) cs]

theorem pushSegment_eq (special : Bool) (segs : List (List Char)) (segment : String) :
    pushSegment special segs segment = place special segs (settled segment) := by
  unfold pushSegment settled
  split
  · rfl
  · show resolve (stem segs) [percentEncode (inSegment special) (passed segment)] = _
    unfold resolve place
    simp only [isAbove_percentEncode, isHere_percentEncode]
    by_cases hhere : passed segment = ['.']
    · rw [hhere]
      rfl
    · simp only [if_neg hhere]

theorem settled_eq_none_iff {segment : String} : settled segment = none ↔ segment = "." ∨ segment = ".." := by
  unfold settled
  split
  · exact iff_of_true rfl ‹_›
  · exact iff_of_false (by simp) ‹_›

theorem settled_eq_above_iff {segment : String} :
    settled segment = some ['.', '.'] ↔ (segment ≠ "." ∧ segment ≠ "..") ∧ passed segment = ['.', '.'] := by
  unfold settled
  rw [← not_or]
  split
  · rename_i hdots
    exact iff_of_false (by simp) fun h => h.1 hdots
  · rename_i hdots
    rw [and_iff_right hdots, Option.some.injEq]
    split
    · rename_i hhere
      rw [hhere]
      decide
    · rfl

/-- Without tabs and line breaks all of a segment is left, if it is not `.` or `..`. -/
theorem settled_of_unmarked {segment : String} (h : segment ≠ "." ∧ segment ≠ "..")
    (hmarks : ∀ c ∈ segment.toList, isLineMark c = false) : settled segment = some segment.toList := by
  have hpassed : passed segment = segment.toList := by
    apply List.filter_eq_self.mpr
    intro c hc
    rw [hmarks c hc]
    rfl
  have hdot : segment.toList ≠ ['.'] := fun heq => h.1 (String.toList_injective heq)
  unfold settled
  rw [if_neg (not_or.mpr h), hpassed, if_neg hdot]

section

variable {special : Bool} {front : List (List Char)} {last : List Char}

theorem stem_append (hlast : last ≠ []) : stem (front ++ [last]) = front ++ [last] := by
  apply if_neg
  intro h
  have hend := congrArg List.getLast? h
  rw [List.getLast?_concat] at hend
  exact hlast (Option.some.inj hend)

theorem shorten_append (hdrive : isDrive last = false) : shorten (front ++ [last]) = front := by
  unfold shorten
  rw [List.getLast?_concat]
  dsimp only
  rw [hdrive, List.dropLast_concat]
  rfl

theorem place_some (hlast : last ≠ []) (hdrive : isDrive last = false) (cs : List Char) :
    place special (front ++ [last]) (some cs) =
      if cs = ['.', '.'] then front ++ [[]]
      else front ++ [last] ++ [percentEncode (inSegment special) cs] := by
  unfold place
  dsimp only
  rw [stem_append hlast, shorten_append hdrive]

/-- What is left of a segment is one segment more, unless nothing is left or it goes up. -/
theorem place_eq_append_iff (hlast : last ≠ []) (hdrive : isDrive last = false) {left : Option (List Char)} :
    (∃ segment, place special (front ++ [last]) left = front ++ [last] ++ [segment]) ↔
      left ≠ none ∧ left ≠ some ['.', '.'] := by
  have hlength : ∀ segs, segs.length = (front ++ [last]).length →
      ¬ ∃ segment, segs = front ++ [last] ++ [segment] := by
    rintro segs hsegs ⟨segment, rfl⟩
    simp at hsegs
  cases left with
  | none => exact iff_of_false (hlength _ rfl) fun h => h.1 rfl
  | some cs =>
    rw [place_some hlast hdrive]
    split
    · rename_i hcs
      refine iff_of_false (hlength _ (by simp)) fun h => h.2 (congrArg some hcs)
    · rename_i hcs
      exact iff_of_true ⟨_, rfl⟩ ⟨by simp, fun h => hcs (Option.some.inj h)⟩

/-- Segments of which different things are left lead to different paths. -/
theorem place_injective (hlast : last ≠ []) (hdrive : isDrive last = false) :
    Function.Injective (place special (front ++ [last])) := by
  have hnone : ∀ cs, place special (front ++ [last]) none ≠ place special (front ++ [last]) (some cs) := by
    intro cs h
    rw [place_some hlast hdrive] at h
    split at h
    · exact hlast (List.cons.inj (List.append_cancel_left h)).1
    · simp [place] at h
  intro left left' h
  cases left with
  | none =>
    cases left' with
    | none => rfl
    | some ds => exact absurd h (hnone ds)
  | some cs =>
    cases left' with
    | none => exact absurd h.symm (hnone cs)
    | some ds =>
      rw [place_some hlast hdrive, place_some hlast hdrive] at h
      congr 1
      -- going up leaves a path as long as it was, anything else a longer one
      split at h <;> split at h
      · rename_i hcs hds
        exact hcs.trans hds.symm
      · simp at h
      · simp at h
      · exact percentEncode_injective inSegment_percent (List.cons.inj (List.append_cancel_left h)).1

end

/-! ## A row of further segments -/

/-- A name that is a segment as it stands. -/
def isPlain (name : String) : Bool :=
  !name.toList.isEmpty &&
    name.toList.all fun c => c.toNat < 0x80 && !inSegment true c && !isLineMark c && c != '.'

theorem pushSegment_of_isPlain {name : String} (h : isPlain name = true) (special : Bool)
    (segs : List (List Char)) : pushSegment special segs name = stem segs ++ [name.toList] := by
  unfold isPlain at h
  simp only [Bool.and_eq_true, Bool.not_eq_true', List.all_eq_true, decide_eq_true_eq, bne_iff_ne] at h
  obtain ⟨hempty, hplain⟩ := h
  have hdot : '.' ∉ name.toList := fun hmem => (hplain '.' hmem).2 rfl
  have hne : name ≠ "." ∧ name ≠ ".." := by
    constructor
    · rintro rfl
      exact hdot (by decide)
    · rintro rfl
      exact hdot (by decide)
  have habove : name.toList ≠ ['.', '.'] := by
    intro heq
    exact hdot (heq ▸ List.mem_cons_self)
  have hsame : percentEncode (inSegment special) name.toList = name.toList := by
    apply percentEncode_eq_self
    intro c hc
    obtain ⟨⟨⟨hascii, hkept⟩, -⟩, -⟩ := hplain c hc
    refine ⟨hascii, ?_⟩
    cases special with
    | true => exact hkept
    | false =>
      unfold inSegment at hkept ⊢
      simp only [Bool.or_eq_false_iff] at hkept
      simp only [hkept.1, Bool.false_and, Bool.or_false]
  rw [pushSegment_eq, settled_of_unmarked hne fun c hc => (hplain c hc).1.2]
  unfold place
  dsimp only
  rw [if_neg habove, hsame]

theorem stem_foldl_pushSegment {names : List String} (h : ∀ name ∈ names, isPlain name = true) (special : Bool)
    (segs : List (List Char)) :
    stem (names.foldl (pushSegment special) segs) = stem segs ++ names.map String.toList := by
  induction names generalizing segs with
  | nil => rw [List.map_nil, List.append_nil, List.foldl_nil]
  | cons name names ih =>
    have hname := h name List.mem_cons_self
    have hne : name.toList ≠ [] := by
      intro heq
      unfold isPlain at hname
      rw [heq] at hname
      cases hname
    rw [List.foldl_cons, ih fun n hn => h n (List.mem_cons_of_mem name hn), pushSegment_of_isPlain hname,
      stem_append hne, List.append_assoc, List.map_cons, List.singleton_append]

/-- The segments that further ones come after: those of a path but an empty one at its end. A path of two empty
ones has none. -/
def trunk (segs : List (List Char)) : List (List Char) :=
  if segs = [[], []] then [] else if segs.getLast? = some [] then segs.dropLast else segs

theorem stem_dropEmptyLast {segs : List (List Char)} (h : segs ≠ []) : stem (dropEmptyLast segs) = trunk segs := by
  obtain rfl | ⟨front, last, rfl⟩ := List.eq_nil_or_concat segs
  · exact absurd rfl h
  rw [List.concat_eq_append]
  unfold dropEmptyLast trunk
  simp only [List.getLast?_concat, List.dropLast_concat, Option.some.injEq, List.length_append,
    List.length_singleton]
  by_cases hlast : last = []
  · subst hlast
    have htwo : front ++ [[]] = [[], []] ↔ front = [[]] := by
      rw [show [[], []] = [[]] ++ [([] : List Char)] from rfl, List.append_left_inj]
    simp only [htwo, and_true, if_true]
    cases front with
    | nil => rfl
    | cons s front =>
      rw [List.length_cons, if_pos (by omega)]
      rfl
  · have htwo : front ++ [last] ≠ [[], []] := by
      intro heq
      have hend := congrArg List.getLast? heq
      rw [List.getLast?_concat] at hend
      exact hlast (Option.some.inj hend)
    rw [if_neg (fun hboth => hlast hboth.2), if_neg htwo, if_neg hlast, stem_append hlast]

theorem stem_of_ne_nil {segs : List (List Char)} (h : stem segs ≠ []) : stem segs = segs := by
  unfold stem at h ⊢
  split
  · rename_i hempty
    rw [if_pos hempty] at h
    exact absurd rfl h
  · rfl

/-- Names that are segments as they stand, and a further segment. -/
theorem extend?_concat {u : Url} {segs : List (List Char)} (hpath : u.path = .segments segs) (hsegs : segs ≠ [])
    {names : List String} (hnames : names ≠ []) (hplain : ∀ name ∈ names, isPlain name = true)
    (segment : String) :
    u.extend? (names ++ [segment]) = some { u with
      path := .segments (place (isSpecial u.scheme) (trunk segs ++ names.map String.toList) (settled segment)) } := by
  have hstem := stem_foldl_pushSegment hplain (isSpecial u.scheme) (dropEmptyLast segs)
  have hne : stem (names.foldl (pushSegment (isSpecial u.scheme)) (dropEmptyLast segs)) ≠ [] := by
    rw [hstem]
    simp [hnames]
  rw [stem_of_ne_nil hne, stem_dropEmptyLast hsegs] at hstem
  unfold extend?
  rw [hpath]
  dsimp only
  rw [List.foldl_append, hstem, List.foldl_cons, List.foldl_nil, pushSegment_eq]

end Url

end OutageLedger
