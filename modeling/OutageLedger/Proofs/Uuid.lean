import OutageLedger.Uuid

/-
  Identifiers read back: the hyphenated form of an identifier is read as that identifier
  (`ofText_toString`), so that no two identifiers are written alike (`toString_inj`).
-/

namespace OutageLedger.Uuid

open Text

/-! ## Groups -/

/-- Hyphens between groups that the row is long enough for are taken away again. -/
theorem unhyphenate?_hyphenate (ns : List Nat) (cs : List Char)
    (h : (ns.dropLast.foldr (· + ·) 0) ≤ cs.length) :
    unhyphenate? ns (hyphenate ns cs) = some cs := by
  induction ns generalizing cs with
  | nil => rfl
  | cons n ns ih =>
    cases ns with
    | nil => rfl
    | cons m ns =>
      have hn : n + ((m :: ns).dropLast.foldr (· + ·) 0) ≤ cs.length := h
      have hlen : (cs.take n).length = n := List.length_take_of_le (by omega)
      have hdrop : (cs.take n ++ '-' :: hyphenate (m :: ns) (cs.drop n)).drop n =
          '-' :: hyphenate (m :: ns) (cs.drop n) := List.drop_left' hlen
      have htake : (cs.take n ++ '-' :: hyphenate (m :: ns) (cs.drop n)).take n = cs.take n :=
        List.take_left' hlen
      have hrest := ih (cs.drop n) (by rw [List.length_drop]; omega)
      simp only [hyphenate, unhyphenate?, hdrop, htake, hrest, Option.map_some]
      rw [List.take_append_drop]

theorem length_hyphenate (ns : List Nat) (cs : List Char)
    (h : (ns.dropLast.foldr (· + ·) 0) ≤ cs.length) :
    (hyphenate ns cs).length = cs.length + ns.dropLast.length := by
  induction ns generalizing cs with
  | nil => rfl
  | cons n ns ih =>
    cases ns with
    | nil => rfl
    | cons m ns =>
      have hn : n + ((m :: ns).dropLast.foldr (· + ·) 0) ≤ cs.length := h
      have hrest := ih (cs.drop n) (by rw [List.length_drop]; omega)
      simp only [hyphenate, List.length_append, List.length_cons, List.length_take,
        List.dropLast_cons_cons, hrest, List.length_drop]
      omega

/-! ## The digits of an identifier -/

theorem length_digits (u : Uuid) : u.digits.length = 32 :=
  length_hexFixed 32 u.value

theorem hexFixed_isHexDigit {c : Char} {width n : Nat} (h : c ∈ hexFixed width n) :
    isHexDigit c = true := by
  induction width generalizing n with
  | zero => cases h
  | succ width ih =>
    rcases List.mem_append.mp h with h | h
    · exact ih h
    · rw [List.mem_singleton.mp h, isHexDigit, hexDigitValue_hexDigit]
      rfl

theorem ofDigits?_digits (u : Uuid) : ofDigits? u.digits = some u := by
  have hshift : u.value >>> (4 * 32) = 0 := by
    rw [Nat.shiftRight_eq_div_pow]
    exact Nat.div_eq_of_lt u.value_lt
  unfold ofDigits?
  rw [if_pos u.length_digits, digits, hexValue_hexFixed hshift]
  exact dif_pos u.value_lt

/-! ## The written form -/

theorem length_text (u : Uuid) : u.text.length = 36 := by
  have h := length_hyphenate groups u.digits (by rw [u.length_digits]; decide)
  rw [text, h, u.length_digits]
  rfl

theorem ofGroups?_text (u : Uuid) : ofGroups? u.text = some u := by
  unfold ofGroups?
  rw [if_pos u.length_text, text,
    unhyphenate?_hyphenate groups u.digits (by rw [u.length_digits]; decide), Option.bind_eq_bind,
    Option.bind_some, u.ofDigits?_digits]

/-- The written form begins with eight digits and a hyphen. -/
theorem text_eq_take_append (u : Uuid) :
    u.text = u.digits.take 8 ++ '-' :: hyphenate [4, 4, 4, 12] (u.digits.drop 8) :=
  rfl

theorem inner?_text (u : Uuid) : inner? u.text = none := by
  have hlen : (u.digits.take 8).length = 8 :=
    List.length_take_of_le (by rw [u.length_digits]; decide)
  have hplace : (u.text.take 9)[8]? = some '-' := by
    rw [text_eq_take_append, List.getElem?_take_of_lt (by decide),
      List.getElem?_append_right (Nat.le_of_eq hlen), hlen]
    rfl
  have hurn : isUrn (u.text.take 9) = false := by
    unfold isUrn
    rw [beq_eq_false_iff_ne]
    intro h
    have h8 := congrArg (fun cs => cs[8]?) h
    simp only [List.getElem?_map, hplace] at h8
    exact absurd h8 (by decide)
  have hhead : ∃ c cs, u.text = c :: cs ∧ isHexDigit c = true := by
    cases hd : u.digits with
    | nil =>
      have := u.length_digits
      rw [hd] at this
      cases this
    | cons c cs =>
      refine ⟨c, cs.take 7 ++ '-' :: hyphenate [4, 4, 4, 12] (u.digits.drop 8), ?_, ?_⟩
      · rw [text_eq_take_append, hd]
        rfl
      · have hmem : c ∈ u.digits := by rw [hd]; exact List.mem_cons_self
        exact hexFixed_isHexDigit hmem
  obtain ⟨c, cs, htext, hc⟩ := hhead
  have hbrace : c ≠ '\x7b' := by
    rintro rfl
    exact absurd hc (by decide)
  unfold inner?
  rw [htext] at hurn ⊢
  split
  · rename_i rest heq
    exact absurd (List.cons.inj heq).1 hbrace
  · rw [hurn]
    rfl

theorem ofText_toString (u : Uuid) : ofText (toString u) = .ok u := by
  have hchars : ofChars? u.text = some u := by
    unfold ofChars?
    rw [u.inner?_text]
    have hdigits : ofDigits? u.text = none := by
      unfold ofDigits?
      rw [if_neg (by rw [u.length_text]; decide)]
    simp only [hdigits, Option.none_or]
    exact u.ofGroups?_text
  have htext : (toString u).toList = u.text := String.toList_ofList
  unfold ofText
  rw [htext, hchars]

theorem toString_inj {u v : Uuid} : toString u = toString v ↔ u = v := by
  constructor
  · intro h
    have := u.ofText_toString
    rw [h, v.ofText_toString] at this
    exact (Except.ok.inj this).symm
  · rintro rfl
    rfl

end OutageLedger.Uuid
