/-
  UTF-8: the bytes of a text, reading bytes as text, and reading bytes of unknown origin.
  Main statement: `decode_encode`, the bytes of a text read back as that text.
-/

namespace OutageLedger.Text.Utf8

/-! ## Writing -/

/-- The bytes of one code point, one to four of them. -/
def encodeChar (c : Char) : List UInt8 :=
  let n := c.toNat
  if n < 0x80 then [.ofNat n]
  else if n < 0x800 then [.ofNat (0xC0 + n / 64), .ofNat (0x80 + n % 64)]
  else if n < 0x10000 then
    [.ofNat (0xE0 + n / 4096), .ofNat (0x80 + n / 64 % 64), .ofNat (0x80 + n % 64)]
  else
    [.ofNat (0xF0 + n / 262144), .ofNat (0x80 + n / 4096 % 64), .ofNat (0x80 + n / 64 % 64),
      .ofNat (0x80 + n % 64)]

def encode (cs : List Char) : List UInt8 :=
  cs.flatMap encodeChar

/-! ## Reading -/

/-- What a first byte announces: how many bytes follow, the range of the first of them, and the
value that the first byte contributes. -/
structure Lead where
  follow : Nat
  low : Nat
  high : Nat
  value : Nat

/-- The ranges exclude overlong forms, surrogates and what lies above U+10FFFF. -/
def lead? (b : Nat) : Option Lead :=
  if b < 0x80 then some ⟨0, 0, 0, b⟩
  else if b < 0xC2 then none
  else if b < 0xE0 then some ⟨1, 0x80, 0xBF, b - 0xC0⟩
  else if b = 0xE0 then some ⟨2, 0xA0, 0xBF, 0⟩
  else if b = 0xED then some ⟨2, 0x80, 0x9F, 0xD⟩
  else if b < 0xF0 then some ⟨2, 0x80, 0xBF, b - 0xE0⟩
  else if b = 0xF0 then some ⟨3, 0x90, 0xBF, 0⟩
  else if b < 0xF4 then some ⟨3, 0x80, 0xBF, b - 0xF0⟩
  else if b = 0xF4 then some ⟨3, 0x80, 0x8F, 4⟩
  else none

/-- Reads the following bytes of a code point: its value, or where the form breaks off, and how
many bytes belong to it. -/
def follow : Nat → Nat → Nat → Nat → List UInt8 → Option Nat × Nat
  | 0, _, _, value, _ => (some value, 0)
  | _ + 1, _, _, _, [] => (none, 0)
  | n + 1, low, high, value, b :: bs =>
    if low ≤ b.toNat ∧ b.toNat ≤ high then
      let (r, used) := follow n 0x80 0xBF (value * 64 + (b.toNat - 0x80)) bs
      (r, used + 1)
    else (none, 0)

/-- The first code point of a non-empty sequence of bytes, none if no code point starts there, and
how many bytes after the first belong to it or to its beginning. -/
def scan (b : UInt8) (bs : List UInt8) : Option Char × Nat :=
  match lead? b.toNat with
  | none => (none, 0)
  | some l =>
    let (r, used) := follow l.follow l.low l.high l.value bs
    (r.map Char.ofNat, used)

/-- Reads bytes as text; `none` if they are not UTF-8. -/
def decode? : List UInt8 → Option (List Char)
  | [] => some []
  | b :: bs =>
    match scan b bs with
    | (some c, used) => (decode? (bs.drop used)).map (c :: ·)
    | (none, _) => none
termination_by bs => bs.length
decreasing_by simp only [List.length_cons, List.length_drop]; omega

/-- Reads bytes as text, with U+FFFD for each longest beginning of a code point that breaks off,
and for each byte that begins none. -/
def decodeLossy : List UInt8 → List Char
  | [] => []
  | b :: bs =>
    let (c, used) := scan b bs
    c.getD (Char.ofNat 0xFFFD) :: decodeLossy (bs.drop used)
termination_by bs => bs.length
decreasing_by simp only [List.length_cons, List.length_drop]; omega

/-! ## Reading back -/

theorem toNat_ofNat_of_lt {n : Nat} (h : n < 256) : (UInt8.ofNat n).toNat = n := by
  simp [UInt8.toNat_ofNat', Nat.mod_eq_of_lt h]

theorem toNat_valid (c : Char) : c.toNat < 0xD800 ∨ (0xDFFF < c.toNat ∧ c.toNat < 0x110000) :=
  c.valid

theorem follow_byte {n low high value x : Nat} (rest : List UInt8) (h : x < 64)
    (hlow : low ≤ 0x80 + x) (hhigh : 0x80 + x ≤ high) :
    follow (n + 1) low high value (.ofNat (0x80 + x) :: rest) =
      ((follow n 0x80 0xBF (value * 64 + x) rest).1,
        (follow n 0x80 0xBF (value * 64 + x) rest).2 + 1) := by
  have hb : (UInt8.ofNat (0x80 + x)).toNat = 0x80 + x := toNat_ofNat_of_lt (by omega)
  simp only [follow, hb]
  rw [if_pos ⟨hlow, hhigh⟩]
  simp [show 0x80 + x - 0x80 = x by omega]

theorem scan_encodeChar (c : Char) (rest : List UInt8) :
    ∃ b bs, encodeChar c = b :: bs ∧ scan b (bs ++ rest) = (some c, bs.length) := by
  have hv := toNat_valid c
  have hc : Char.ofNat c.toNat = c := Char.ofNat_toNat c
  unfold encodeChar
  simp only []
  split
  · rename_i h
    refine ⟨_, _, rfl, ?_⟩
    simp [scan, lead?, toNat_ofNat_of_lt (show c.toNat < 256 by omega), h, follow, hc]
  · rename_i h1
    split
    · rename_i h2
      refine ⟨_, _, rfl, ?_⟩
      have hl : lead? (UInt8.ofNat (0xC0 + c.toNat / 64)).toNat =
          some ⟨1, 0x80, 0xBF, c.toNat / 64⟩ := by
        rw [toNat_ofNat_of_lt (by omega)]
        unfold lead?
        rw [if_neg (by omega), if_neg (by omega), if_pos (by omega)]
        simp [show 0xC0 + c.toNat / 64 - 0xC0 = c.toNat / 64 by omega]
      simp only [scan, hl, List.cons_append, List.nil_append]
      rw [follow_byte _ (by omega) (by omega) (by omega)]
      simp [follow, show c.toNat / 64 * 64 + c.toNat % 64 = c.toNat by omega, hc]
    · rename_i h2
      split
      · rename_i h3
        refine ⟨_, _, rfl, ?_⟩
        have hl : ∃ low high, lead? (UInt8.ofNat (0xE0 + c.toNat / 4096)).toNat =
            some ⟨2, low, high, c.toNat / 4096⟩ ∧ low ≤ 0x80 + c.toNat / 64 % 64 ∧
            0x80 + c.toNat / 64 % 64 ≤ high := by
          rw [toNat_ofNat_of_lt (by omega)]
          unfold lead?
          rw [if_neg (by omega), if_neg (by omega), if_neg (by omega)]
          by_cases e0 : c.toNat / 4096 = 0
          · exact ⟨0xA0, 0xBF, by rw [if_pos (by omega), e0], by omega, by omega⟩
          · rw [if_neg (by omega)]
            by_cases ed : c.toNat / 4096 = 0xD
            · exact ⟨0x80, 0x9F, by rw [if_pos (by omega), ed], by omega, by omega⟩
            · refine ⟨0x80, 0xBF, ?_, by omega, by omega⟩
              rw [if_neg (by omega), if_pos (by omega)]
              simp [show 0xE0 + c.toNat / 4096 - 0xE0 = c.toNat / 4096 by omega]
        obtain ⟨low, high, hl, hlo, hhi⟩ := hl
        simp only [scan, hl, List.cons_append, List.nil_append]
        rw [follow_byte _ (by omega) hlo hhi, follow_byte _ (by omega) (by omega) (by omega)]
        simp [follow, show (c.toNat / 4096 * 64 + c.toNat / 64 % 64) * 64 + c.toNat % 64 = c.toNat
          by omega, hc]
      · rename_i h3
        refine ⟨_, _, rfl, ?_⟩
        have hl : ∃ low high, lead? (UInt8.ofNat (0xF0 + c.toNat / 262144)).toNat =
            some ⟨3, low, high, c.toNat / 262144⟩ ∧ low ≤ 0x80 + c.toNat / 4096 % 64 ∧
            0x80 + c.toNat / 4096 % 64 ≤ high := by
          rw [toNat_ofNat_of_lt (by omega)]
          unfold lead?
          rw [if_neg (by omega), if_neg (by omega), if_neg (by omega), if_neg (by omega),
            if_neg (by omega), if_neg (by omega)]
          by_cases e0 : c.toNat / 262144 = 0
          · exact ⟨0x90, 0xBF, by rw [if_pos (by omega), e0], by omega, by omega⟩
          · rw [if_neg (by omega)]
            by_cases e4 : c.toNat / 262144 = 4
            · refine ⟨0x80, 0x8F, ?_, by omega, by omega⟩
              rw [if_neg (by omega), if_pos (by omega), e4]
            · refine ⟨0x80, 0xBF, ?_, by omega, by omega⟩
              rw [if_pos (by omega)]
              simp [show 0xF0 + c.toNat / 262144 - 0xF0 = c.toNat / 262144 by omega]
        obtain ⟨low, high, hl, hlo, hhi⟩ := hl
        simp only [scan, hl, List.cons_append, List.nil_append]
        rw [follow_byte _ (by omega) hlo hhi, follow_byte _ (by omega) (by omega) (by omega),
          follow_byte _ (by omega) (by omega) (by omega)]
        simp [follow, show ((c.toNat / 262144 * 64 + c.toNat / 4096 % 64) * 64 +
          c.toNat / 64 % 64) * 64 + c.toNat % 64 = c.toNat by omega, hc]

theorem decode_encodeChar_append (c : Char) (rest : List UInt8) :
    decode? (encodeChar c ++ rest) = (decode? rest).map (c :: ·) := by
  obtain ⟨b, bs, hb, hs⟩ := scan_encodeChar c rest
  rw [hb, List.cons_append, decode?, hs]
  simp

/-- The bytes of a text read back as that text. -/
theorem decode_encode (cs : List Char) : decode? (encode cs) = some cs := by
  induction cs with
  | nil => simp [encode, decode?]
  | cons c cs ih =>
    simp only [encode, List.flatMap_cons] at ih ⊢
    rw [decode_encodeChar_append, ih]
    rfl

end OutageLedger.Text.Utf8
