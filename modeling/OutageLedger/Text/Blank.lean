/-
  Blank characters: the 25 code points of the Unicode property White_Space, and trimming by them.
  Main statements: what `trim` returns has no blank at either end (`head_trim_not_blank`,
  `last_trim_not_blank`); it is what is left of a text when blanks are put around it
  (`trim_padded`), and every text is what is left of it with blanks around that (`exists_padding`).
-/

namespace OutageLedger.Text

/-- The code points with the Unicode property White_Space. -/
def isBlank (c : Char) : Bool :=
  let n := c.toNat
  (0x9 ≤ n && n ≤ 0xD) || n == 0x20 || n == 0x85 || n == 0xA0 || n == 0x1680 ||
    (0x2000 ≤ n && n ≤ 0x200A) || n == 0x2028 || n == 0x2029 || n == 0x202F || n == 0x205F ||
    n == 0x3000

/-- A text without its leading blanks. -/
def trimLeft (cs : List Char) : List Char :=
  cs.dropWhile isBlank

/-- A text without its trailing blanks. -/
def trimRight (cs : List Char) : List Char :=
  (cs.reverse.dropWhile isBlank).reverse

/-- A text without the blanks around it. -/
def trim (cs : List Char) : List Char :=
  trimRight (trimLeft cs)

/-! ## What is left has no blank at its ends -/

theorem head_trimLeft_not_blank {c : Char} {cs rest : List Char} (h : trimLeft cs = c :: rest) :
    isBlank c = false := by
  induction cs with
  | nil => simp [trimLeft] at h
  | cons d ds ih =>
    unfold trimLeft at h ih
    by_cases hd : isBlank d = true
    · exact ih (by simpa [List.dropWhile, hd] using h)
    · simp only [Bool.not_eq_true] at hd
      simp only [List.dropWhile, hd] at h
      cases h
      exact hd

theorem trimLeft_of_head {c : Char} {rest : List Char} (h : isBlank c = false) :
    trimLeft (c :: rest) = c :: rest := by
  simp [trimLeft, List.dropWhile, h]

theorem trimRight_of_last {c : Char} {front : List Char} (h : isBlank c = false) :
    trimRight (front ++ [c]) = front ++ [c] := by
  simp [trimRight, h]

theorem last_trimRight_not_blank {c : Char} {cs front : List Char}
    (h : trimRight cs = front ++ [c]) : isBlank c = false := by
  have h' : cs.reverse.dropWhile isBlank = c :: front.reverse := by
    have := congrArg List.reverse h
    simpa [trimRight] using this
  exact head_trimLeft_not_blank h'

theorem last_trim_not_blank {c : Char} {cs front : List Char} (h : trim cs = front ++ [c]) :
    isBlank c = false :=
  last_trimRight_not_blank h

/-- Trimming on the right keeps the first character of a text that starts with none of the
characters it drops. -/
theorem trimRight_cons_of_head {c : Char} {rest : List Char} (h : isBlank c = false) :
    ∃ rest', trimRight (c :: rest) = c :: rest' := by
  have key : ∀ l : List Char, (l ++ [c]).dropWhile isBlank = l.dropWhile isBlank ++ [c] := by
    intro l
    induction l with
    | nil => simp [List.dropWhile, h]
    | cons d ds ih =>
      by_cases hd : isBlank d = true
      · simp [List.dropWhile, hd, ih]
      · simp only [Bool.not_eq_true] at hd
        simp [List.dropWhile, hd]
  exact ⟨(rest.reverse.dropWhile isBlank).reverse, by simp [trimRight, key]⟩

theorem head_trim_not_blank {c : Char} {cs rest : List Char} (h : trim cs = c :: rest) :
    isBlank c = false := by
  unfold trim at h
  cases hl : trimLeft cs with
  | nil => simp [hl, trimRight] at h
  | cons d ds =>
    have hd := head_trimLeft_not_blank hl
    obtain ⟨r, hr⟩ : ∃ r, trimRight (d :: ds) = d :: r := trimRight_cons_of_head hd
    rw [hl, hr] at h
    cases h
    exact hd

/-! ## What trimming takes off -/

/-- What has no blank at its ends is left of it when blanks are put around it. -/
theorem trim_padded {before cs after : List Char} (hbefore : ∀ c ∈ before, isBlank c = true)
    (hafter : ∀ c ∈ after, isBlank c = true)
    (hfirst : ∀ c rest, cs = c :: rest → isBlank c = false)
    (hlast : ∀ c front, cs = front ++ [c] → isBlank c = false) :
    trim (before ++ cs ++ after) = cs := by
  unfold trim
  cases cs with
  | nil =>
    have hblank : ∀ c ∈ before ++ after, isBlank c = true :=
      List.forall_mem_append.mpr ⟨hbefore, hafter⟩
    have hleft : trimLeft (before ++ after ++ []) = [] := List.dropWhile_append_of_pos hblank
    rw [List.append_nil] at hleft
    rw [List.append_nil, hleft]
    rfl
  | cons c rest =>
    have hreverse : ∀ c ∈ after.reverse, isBlank c = true := fun c hc =>
      hafter c (List.mem_reverse.mp hc)
    have hleft : trimLeft (before ++ (c :: rest) ++ after) = (c :: rest) ++ after := by
      unfold trimLeft
      rw [List.append_assoc, List.dropWhile_append_of_pos hbefore]
      exact trimLeft_of_head (hfirst c rest rfl)
    have hsplit := List.dropLast_concat_getLast (List.cons_ne_nil c rest)
    have hend := hlast _ _ hsplit.symm
    rw [hleft, ← hsplit, trimRight, List.reverse_append, List.dropWhile_append_of_pos hreverse]
    exact trimRight_of_last hend

/-- A text is what trimming leaves of it, with blanks around it. -/
theorem exists_padding (cs : List Char) :
    ∃ before after, (∀ c ∈ before, isBlank c = true) ∧ (∀ c ∈ after, isBlank c = true) ∧
      cs = before ++ trim cs ++ after := by
  have htaken : ∀ l : List Char, ∀ c ∈ l.takeWhile isBlank, isBlank c = true := fun l =>
    List.all_eq_true.mp List.all_takeWhile
  have hleft : cs.takeWhile isBlank ++ trimLeft cs = cs := List.takeWhile_append_dropWhile
  have hright : trim cs ++ ((trimLeft cs).reverse.takeWhile isBlank).reverse = trimLeft cs := by
    unfold trim trimRight
    rw [← List.reverse_append, List.takeWhile_append_dropWhile, List.reverse_reverse]
  refine ⟨cs.takeWhile isBlank, ((trimLeft cs).reverse.takeWhile isBlank).reverse, htaken cs,
    fun c hc => htaken _ c (List.mem_reverse.mp hc), ?_⟩
  rw [List.append_assoc, hright, hleft]

end OutageLedger.Text
