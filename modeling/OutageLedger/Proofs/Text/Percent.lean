import OutageLedger.Text.Percent

/-
  Reading back what is percent-encoded. A text is encoded character by character, and each piece reads back
  whatever comes after it, as long as the percent sign is encoded itself. Main statements:
  `percentDecode_percentEncode`, an encoded text denotes its bytes, and `not_mem_percentEncode`, a character
  that is to be encoded does not occur in it.
-/

namespace OutageLedger.Text

theorem Utf8.encode_injective : Function.Injective Utf8.encode := by
  intro cs ds h
  have hread := congrArg Utf8.decode? h
  rw [Utf8.decode_encode, Utf8.decode_encode] at hread
  exact Option.some.inj hread

/-! ## One byte -/

theorem hexDigitValue_upperHexDigit (n : Nat) : hexDigitValue? (upperHexDigit n) = some (n % 16) := by
  have hlt : n % 16 < 16 := Nat.mod_lt _ (by decide)
  unfold upperHexDigit hexDigitValue?
  split
  · rw [toNat_ofNat_ascii (by omega)]
    dsimp only
    rw [if_pos (by omega), Nat.add_sub_cancel_left]
  · rw [toNat_ofNat_ascii (by omega)]
    dsimp only
    rw [if_neg (by omega), if_neg (by omega), if_pos (by omega), Nat.add_sub_cancel_left]

theorem percentDecode_percentByte_append (b : UInt8) (rest : List Char) :
    percentDecode (percentByte b ++ rest) = b :: percentDecode rest := by
  have hvalue : b.toNat / 16 % 16 * 16 + b.toNat % 16 = b.toNat := by
    have hb : b.toNat < 256 := b.toNat_lt
    omega
  simp only [percentByte, List.cons_append, List.nil_append, percentDecode, hexDigitValue_upperHexDigit]
  rw [hvalue, UInt8.ofNat_toNat]

theorem percentDecode_bytes_append (bs : List UInt8) (rest : List Char) :
    percentDecode (bs.flatMap percentByte ++ rest) = bs ++ percentDecode rest := by
  induction bs with
  | nil => rfl
  | cons b bs ih =>
    rw [List.flatMap_cons, List.append_assoc, percentDecode_percentByte_append, ih, List.cons_append]

theorem percentDecode_cons_of_ne {c : Char} (h : c ≠ '%') (cs : List Char) :
    percentDecode (c :: cs) = Utf8.encodeChar c ++ percentDecode cs := by
  rw [percentDecode]
  intro a b rest hc
  exact absurd hc h

theorem mem_percentByte {b : UInt8} {c : Char} (h : c ∈ percentByte b) : c = '%' ∨ isHexDigit c = true := by
  have hdigit : ∀ n, isHexDigit (upperHexDigit n) = true := by
    intro n
    rw [isHexDigit, hexDigitValue_upperHexDigit]
    rfl
  simp only [percentByte, List.mem_cons, List.not_mem_nil, or_false] at h
  rcases h with rfl | rfl | rfl
  · exact Or.inl rfl
  · exact Or.inr (hdigit _)
  · exact Or.inr (hdigit _)

/-! ## A text -/

section

variable {escape : Char → Bool} {c : Char} {cs : List Char}

/-- An encoded text denotes the bytes of the text. -/
theorem percentDecode_percentEncode (h : escape '%' = true) (cs : List Char) :
    percentDecode (percentEncode escape cs) = Utf8.encode cs := by
  induction cs with
  | nil => rfl
  | cons c cs ih =>
    unfold percentEncode Utf8.encode at ih ⊢
    rw [List.flatMap_cons, List.flatMap_cons]
    split
    · rename_i hkept
      have hc : c ≠ '%' := by
        rintro rfl
        rw [h] at hkept
        exact absurd hkept (by decide)
      rw [List.singleton_append, percentDecode_cons_of_ne hc, ih]
    · rw [percentDecode_bytes_append, ih]

theorem percentEncode_injective (h : escape '%' = true) : Function.Injective (percentEncode escape) := by
  intro cs ds heq
  apply Utf8.encode_injective
  rw [← percentDecode_percentEncode h cs, heq, percentDecode_percentEncode h ds]

theorem not_mem_percentEncode (h : escape c = true) (hmark : c ≠ '%') (hdigit : isHexDigit c = false)
    (cs : List Char) : c ∉ percentEncode escape cs := by
  intro hc
  obtain ⟨d, -, hc⟩ := List.mem_flatMap.mp hc
  split at hc
  · rename_i hkept
    rw [List.mem_singleton.mp hc] at h
    rw [h] at hkept
    simp at hkept
  · obtain ⟨b, -, hc⟩ := List.mem_flatMap.mp hc
    rcases mem_percentByte hc with rfl | hhex
    · exact hmark rfl
    · rw [hdigit] at hhex
      cases hhex

theorem percentEncode_eq_self (h : ∀ c ∈ cs, c.toNat < 0x80 ∧ escape c = false) :
    percentEncode escape cs = cs := by
  induction cs with
  | nil => rfl
  | cons c cs ih =>
    obtain ⟨hascii, hkept⟩ := h c List.mem_cons_self
    have hrest := ih fun d hd => h d (List.mem_cons_of_mem c hd)
    unfold percentEncode at hrest ⊢
    rw [List.flatMap_cons, hrest, hkept, decide_eq_true hascii]
    rfl

end

end OutageLedger.Text
