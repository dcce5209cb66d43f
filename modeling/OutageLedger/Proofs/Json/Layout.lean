import Mathlib.Data.List.TakeWhile
import OutageLedger.Json.Token

/-
  The tokens of JSON in their texts, as a grammar beside the reader: what may stand for a piece of a string, for a
  token, and for a row of tokens with blanks anywhere between them. Main statement: `tokens?_eq_some_iff`, the reader
  takes the rows that are laid out so, and no other texts.
-/

namespace OutageLedger.Json

open Text

/-! ## Grammar -/

/-- What may stand for a piece of a string: a byte for itself, a backslash with a letter, or a backslash with `u` and
four digits. -/
inductive PieceText : Piece → List UInt8 → Prop
  | plain {b : UInt8} (hquote : byteChar b ≠ '"') (hslash : byteChar b ≠ '\\') (hlow : 0x20 ≤ b.toNat) :
    PieceText (.byte b) [b]
  | escape {letter : UInt8} {c : Char} (h : escaped? (byteChar letter) = some c) :
    PieceText (.byte (charByte c)) [charByte '\\', letter]
  | unit {h1 h2 h3 h4 : UInt8} {n : Nat} (h : hexValue? ([h1, h2, h3, h4].map byteChar) = some n) :
    PieceText (.unit n) [charByte '\\', charByte 'u', h1, h2, h3, h4]

/-- Pieces, and the quote that ends their string. -/
inductive PiecesText : List Piece → List UInt8 → Prop
  | quote : PiecesText [] [charByte '"']
  | piece {p : Piece} {ps : List Piece} {front bs : List UInt8} (h : PieceText p front) (hrest : PiecesText ps bs) :
    PiecesText (p :: ps) (front ++ bs)

/-- The tokens of a single character. -/
def marks : List (Char × Token) :=
  [('[', .beginArray), (']', .endArray), ('\x7b', .beginObject), ('\x7d', .endObject), (':', .colon), (',', .comma)]

/-- What may stand for a token. -/
inductive TokenText : Token → List UInt8 → Prop
  | mark {c : Char} {t : Token} (h : (c, t) ∈ marks) : TokenText t [charByte c]
  | word {word : String} {value : Json} (h : (word, value) ∈ words) :
    TokenText (.leaf value) (word.toList.map charByte)
  | number {bs : List UInt8} (h : isNumber (bs.map byteChar) = true) : TokenText (.leaf (.number (bs.map byteChar))) bs
  | string {ps : List Piece} {bs : List UInt8} (h : PiecesText ps bs) :
    TokenText (.leaf (.string (content? ps))) (charByte '"' :: bs)

def Token.isNumber : Token → Bool
  | .leaf (.number _) => true
  | _ => false

/-- A number goes on as far as there are marks of a number. -/
def EndsBefore (t : Token) (bs : List UInt8) : Prop :=
  t.isNumber = true → ∀ b ∈ bs.head?, isNumberMark b = false

/-- A row of tokens may be laid out as these bytes. -/
inductive Laid : List Token → List UInt8 → Prop
  | nil : Laid [] []
  | space {b : UInt8} {ts : List Token} {bs : List UInt8} (hspace : isSpace b = true) (hrest : Laid ts bs) :
    Laid ts (b :: bs)
  | token {t : Token} {ts : List Token} {front bs : List UInt8} (htext : TokenText t front) (hend : EndsBefore t bs)
    (hrest : Laid ts bs) : Laid (t :: ts) (front ++ bs)

theorem not_isNumber_of_mem_marks : ∀ p ∈ marks, p.2.isNumber = false := by
  decide

theorem not_isNumber_of_mem_words : ∀ p ∈ words, (Token.leaf p.2).isNumber = false := by
  decide

theorem endsBefore_of_not_isNumber {t : Token} (h : t.isNumber = false) (bs : List UInt8) : EndsBefore t bs :=
  fun hnumber => absurd (h.symm.trans hnumber) Bool.false_ne_true

/-! ## Bytes and their characters -/

theorem toNat_byteChar (b : UInt8) : (byteChar b).toNat = b.toNat := by
  have hb : b.toNat < 256 := b.toNat_lt
  have hvalid : b.toNat.isValidChar := Or.inl (by omega)
  rw [byteChar, Char.ofNat, dif_pos hvalid]
  rfl

theorem charByte_byteChar (b : UInt8) : charByte (byteChar b) = b := by
  unfold charByte
  rw [toNat_byteChar, UInt8.ofNat_toNat]

theorem eq_charByte {b : UInt8} {c : Char} (h : byteChar b = c) : b = charByte c := by
  rw [← h, charByte_byteChar]

/-! ## Strings -/

theorem pieces?_of_text {p : Piece} {front : List UInt8} (h : PieceText p front) (bs : List UInt8) :
    pieces? (front ++ bs) = (pieces? bs).map fun r => (p :: r.1, r.2 + front.length) := by
  cases h with
  | plain hquote hslash hlow =>
    rw [List.singleton_append, pieces?.eq_def]
    dsimp only
    rw [if_neg hquote, if_neg hslash, if_neg (Nat.not_lt.mpr hlow)]
    cases pieces? bs <;> rfl
  | @escape letter c h =>
    have hu : byteChar letter ≠ 'u' := by
      intro hu
      rw [hu] at h
      cases h
    show pieces? (charByte '\\' :: letter :: bs) = _
    rw [pieces?.eq_def]
    dsimp only
    rw [if_neg (by decide), if_pos (by decide), if_neg hu, h]
    show (pieces? bs >>= _) = _
    cases pieces? bs <;> rfl
  | @unit h1 h2 h3 h4 n h =>
    show pieces? (charByte '\\' :: charByte 'u' :: h1 :: h2 :: h3 :: h4 :: bs) = _
    rw [pieces?.eq_def]
    dsimp only
    rw [if_neg (by decide), if_pos (by decide), if_pos (by decide), h]
    show (pieces? bs >>= _) = _
    cases pieces? bs <;> rfl

/-- A string is read as far as its last quote. -/
theorem pieces?_of_piecesText {ps : List Piece} {front : List UInt8} (h : PiecesText ps front) (bs : List UInt8) :
    pieces? (front ++ bs) = some (ps, front.length) := by
  induction h with
  | quote =>
    show pieces? (charByte '"' :: bs) = _
    rw [pieces?.eq_def]
    exact if_pos (by decide)
  | piece h hrest ih =>
    rw [List.append_assoc, pieces?_of_text h, ih, Option.map_some, List.length_append, Nat.add_comm]

/-- What is read of a string is its text up to a quote. -/
theorem piecesText_of_pieces? {bs : List UInt8} {ps : List Piece} {used : Nat} (h : pieces? bs = some (ps, used)) :
    ∃ front rest, bs = front ++ rest ∧ front.length = used ∧ PiecesText ps front := by
  fun_induction pieces? bs generalizing ps used with
  | case1 => cases h
  | case2 b bs hquote =>
    cases h
    exact ⟨[b], bs, rfl, rfl, eq_charByte hquote ▸ .quote⟩
  | case3 => cases h
  | case4 b _ hslash e hu h1 h2 h3 h4 bs ih =>
    obtain ⟨n, hn, h⟩ := Option.bind_eq_some_iff.mp h
    obtain ⟨⟨qs, m⟩, hread, h⟩ := Option.bind_eq_some_iff.mp h
    cases h
    obtain ⟨front, rest, rfl, rfl, htext⟩ := ih hread
    obtain rfl := eq_charByte hslash
    obtain rfl := eq_charByte hu
    exact ⟨[charByte '\\', charByte 'u', h1, h2, h3, h4] ++ front, rest, rfl, rfl, .piece (.unit hn) htext⟩
  | case5 => cases h
  | case6 b _ hslash e bs hu ih =>
    obtain ⟨c, hc, h⟩ := Option.bind_eq_some_iff.mp h
    obtain ⟨⟨qs, m⟩, hread, h⟩ := Option.bind_eq_some_iff.mp h
    cases h
    obtain ⟨front, rest, rfl, rfl, htext⟩ := ih hread
    obtain rfl := eq_charByte hslash
    exact ⟨[charByte '\\', e] ++ front, rest, rfl, rfl, .piece (.escape hc) htext⟩
  | case7 => cases h
  | case8 b bs hquote hslash hlow ih =>
    obtain ⟨⟨qs, m⟩, hread, h⟩ := Option.bind_eq_some_iff.mp h
    cases h
    obtain ⟨front, rest, rfl, rfl, htext⟩ := ih hread
    exact ⟨[b] ++ front, rest, rfl, rfl, .piece (.plain hquote hslash (Nat.le_of_not_lt hlow)) htext⟩

/-! ## Numbers -/

/-- The characters that a number may have. -/
def isNumberChar (c : Char) : Bool :=
  isDigit c || c == '-' || c == '+' || c == '.' || c == 'e' || c == 'E'

theorem isNumberMark_eq (b : UInt8) : isNumberMark b = isNumberChar (byteChar b) :=
  rfl

theorem isNumberChar_of_isDigit {c : Char} (h : isDigit c = true) : isNumberChar c = true := by
  simp [isNumberChar, h]

theorem isNumberChar_of_mem_dropSign {c : Char} {cs : List Char} (hc : c ∈ cs) :
    isNumberChar c = true ∨ c ∈ dropSign cs := by
  unfold dropSign
  split
  · rcases List.mem_cons.mp hc with rfl | hc
    · exact Or.inl rfl
    · exact Or.inr hc
  · rcases List.mem_cons.mp hc with rfl | hc
    · exact Or.inl rfl
    · exact Or.inr hc
  · exact Or.inr hc

theorem isNumberChar_of_isExponent {cs : List Char} (h : isExponent cs = true) : ∀ c ∈ cs, isNumberChar c = true := by
  intro c hc
  cases cs with
  | nil => cases hc
  | cons e cs =>
    simp only [isExponent, Bool.and_eq_true, Bool.or_eq_true, beq_iff_eq, List.all_eq_true] at h
    obtain ⟨⟨hmark, -⟩, hdigits⟩ := h
    rcases List.mem_cons.mp hc with rfl | hc
    · rcases hmark with rfl | rfl <;> rfl
    · rcases isNumberChar_of_mem_dropSign hc with hsign | hc
      · exact hsign
      · exact isNumberChar_of_isDigit (hdigits c hc)

/-- Digits, and what follows them. -/
theorem isNumberChar_of_dropWhile {cs : List Char} (h : ∀ c ∈ cs.dropWhile isDigit, isNumberChar c = true) :
    ∀ c ∈ cs, isNumberChar c = true := by
  intro c hc
  rw [← List.takeWhile_append_dropWhile (p := isDigit) (l := cs), List.mem_append] at hc
  rcases hc with hc | hc
  · exact isNumberChar_of_isDigit (List.mem_takeWhile_imp hc)
  · exact h c hc

theorem isNumberChar_of_isFraction {cs : List Char} (h : isFraction cs = true) : ∀ c ∈ cs, isNumberChar c = true := by
  unfold isFraction at h
  split at h
  · rw [Bool.and_eq_true] at h
    exact List.forall_mem_cons.mpr ⟨rfl, isNumberChar_of_dropWhile (isNumberChar_of_isExponent h.2)⟩
  · exact isNumberChar_of_isExponent h

theorem isNumberChar_of_isNumber {cs : List Char} (h : isNumber cs = true) : ∀ c ∈ cs, isNumberChar c = true := by
  unfold isNumber at h
  dsimp only at h
  -- what is left without a sign begins with a zero, or with another digit, or there is nothing left
  split at h
  · rename_i ds heq
    have hds : ∀ c ∈ '0' :: ds, isNumberChar c = true :=
      List.forall_mem_cons.mpr ⟨rfl, isNumberChar_of_isFraction h⟩
    split at heq
    · exact List.forall_mem_cons.mpr ⟨rfl, heq ▸ hds⟩
    · exact heq ▸ hds
  · rename_i d ds _ heq
    rw [Bool.and_eq_true] at h
    have hds : ∀ c ∈ d :: ds, isNumberChar c = true :=
      List.forall_mem_cons.mpr
        ⟨isNumberChar_of_isDigit h.1, isNumberChar_of_dropWhile (isNumberChar_of_isFraction h.2)⟩
    split at heq
    · exact List.forall_mem_cons.mpr ⟨rfl, heq ▸ hds⟩
    · exact heq ▸ hds
  · cases h

/-! ## Tokens -/

theorem isNumberMark_of_mem {bs : List UInt8} (h : isNumber (bs.map byteChar) = true) {b : UInt8} (hb : b ∈ bs) :
    isNumberMark b = true :=
  isNumberChar_of_isNumber h _ (List.mem_map_of_mem hb)

theorem isSpace_of_isNumberMark {b : UInt8} (h : isNumberMark b = true) : isSpace b = false := by
  by_contra hspace
  rw [Bool.not_eq_false] at hspace
  simp only [isSpace, Bool.or_eq_true, beq_iff_eq] at hspace
  rw [isNumberMark_eq] at h
  rcases hspace with ((hchar | hchar) | hchar) | hchar <;> rw [hchar] at h <;> exact absurd h (by decide)

theorem token?_of_isNumberMark {b : UInt8} (h : isNumberMark b = true) (bs : List UInt8) :
    token? b bs =
      if isNumber ((b :: bs.takeWhile isNumberMark).map byteChar) then
        some (.leaf (.number ((b :: bs.takeWhile isNumberMark).map byteChar)),
          ((b :: bs.takeWhile isNumberMark).map byteChar).length - 1)
      else none := by
  unfold token?
  split
  case h_8 => rw [if_pos h]
  all_goals
    rename_i hchar
    rw [isNumberMark_eq, hchar] at h
    exact absurd h (by decide)

theorem token?_of_text {t : Token} {front bs : List UInt8} (h : TokenText t front) (hend : EndsBefore t bs) :
    ∃ b rest, front = b :: rest ∧ isSpace b = false ∧ token? b (rest ++ bs) = some (t, rest.length) := by
  cases h with
  | @mark c t h =>
    refine ⟨charByte c, [], rfl, ?_⟩
    simp only [marks, List.mem_cons, Prod.mk.injEq, List.not_mem_nil, or_false] at h
    rcases h with h | h | h | h | h | h <;> obtain ⟨rfl, rfl⟩ := h <;> exact ⟨by decide, rfl⟩
  | @word word value h =>
    simp only [words, List.mem_cons, Prod.mk.injEq, List.not_mem_nil, or_false] at h
    rcases h with h | h | h <;> obtain ⟨rfl, rfl⟩ := h <;> exact ⟨_, _, rfl, by decide, rfl⟩
  | number h =>
    have hmarks := fun b hb => isNumberMark_of_mem h (b := b) hb
    obtain ⟨b, rest, rfl⟩ : ∃ b rest, front = b :: rest := by
      cases front with
      | nil => cases h
      | cons b rest => exact ⟨b, rest, rfl⟩
    have htake : (rest ++ bs).takeWhile isNumberMark = rest := by
      rw [List.takeWhile_append_of_pos fun c hc => hmarks c (List.mem_cons_of_mem b hc)]
      cases bs with
      | nil => simp
      | cons c bs => rw [List.takeWhile_cons_of_neg (by simp [hend rfl c rfl]), List.append_nil]
    have hfirst := hmarks b List.mem_cons_self
    refine ⟨b, rest, rfl, ?_, ?_⟩
    · exact isSpace_of_isNumberMark hfirst
    · rw [token?_of_isNumberMark hfirst, htake, if_pos h, List.length_map]
      rfl
  | @string ps rest h =>
    refine ⟨charByte '"', rest, rfl, by decide, ?_⟩
    show (pieces? (rest ++ bs)).map _ = _
    rw [pieces?_of_piecesText h]
    rfl

theorem tokenText_of_word? {b : UInt8} {bs : List UInt8} {t : Token} {used : Nat}
    (h : word? (b :: bs) = some (t, used)) :
    ∃ front rest, bs = front ++ rest ∧ front.length = used - 1 ∧ TokenText t (b :: front) ∧ EndsBefore t rest := by
  obtain ⟨⟨word, value⟩, hmem, h⟩ := List.exists_of_findSome?_eq_some h
  dsimp only at h
  split at h
  · rename_i htake
    cases h
    have hpos : ∀ p ∈ words, 0 < p.1.toList.length := by
      decide
    obtain ⟨n, hn⟩ : ∃ n, word.toList.length = n + 1 := Nat.exists_eq_add_one.mpr (hpos _ hmem)
    rw [hn, List.take_succ_cons] at htake
    have htext : b :: bs.take n = word.toList.map charByte := by
      rw [← htake, List.map_map]
      exact ((List.map_congr_left fun c _ => charByte_byteChar c).trans (List.map_id _)).symm
    have hlength := congrArg List.length htext
    rw [List.length_map, hn, List.length_cons] at hlength
    refine ⟨bs.take n, bs.drop n, (List.take_append_drop n bs).symm, by omega, ?_, ?_⟩
    · rw [htext]
      exact .word hmem
    · exact endsBefore_of_not_isNumber (not_isNumber_of_mem_words _ hmem) _
  · cases h

theorem tokenText_of_token? {b : UInt8} {bs : List UInt8} {t : Token} {used : Nat}
    (h : token? b bs = some (t, used)) :
    ∃ front rest, bs = front ++ rest ∧ front.length = used ∧ TokenText t (b :: front) ∧ EndsBefore t rest := by
  unfold token? at h
  split at h
  case h_7 hchar =>
    obtain ⟨⟨ps, n⟩, hread, heq⟩ := Option.map_eq_some_iff.mp h
    cases heq
    obtain ⟨front, rest, hsplit, hlength, htext⟩ := piecesText_of_pieces? hread
    obtain rfl := eq_charByte hchar
    exact ⟨front, rest, hsplit, hlength, .string htext, endsBefore_of_not_isNumber rfl rest⟩
  case h_8 =>
    split at h
    · rename_i hmark
      dsimp only at h
      split at h
      · rename_i hnumber
        cases h
        refine ⟨bs.takeWhile isNumberMark, bs.dropWhile isNumberMark,
          List.takeWhile_append_dropWhile.symm, by simp, .number hnumber, ?_⟩
        intro _ c hc
        have hhead := List.head?_dropWhile_not isNumberMark bs
        rw [Option.mem_def.mp hc] at hhead
        exact hhead
      · cases h
    · obtain ⟨⟨u, n⟩, hword, heq⟩ := Option.map_eq_some_iff.mp h
      cases heq
      exact tokenText_of_word? hword
  all_goals
    rename_i hchar
    cases h
    obtain rfl := eq_charByte hchar
    exact ⟨[], bs, rfl, rfl, .mark (by simp [marks]), endsBefore_of_not_isNumber rfl bs⟩

/-! ## Rows of tokens -/

/-- The tokens of a text are read, whatever blanks are between them. -/
theorem tokens?_of_laid {ts : List Token} {bs : List UInt8} (h : Laid ts bs) : tokens? bs = some ts := by
  induction h with
  | nil => rw [tokens?]
  | space hspace hrest ih => rw [tokens?, if_pos hspace, ih]
  | @token t ts front bs htext hend hrest ih =>
    obtain ⟨b, rest, rfl, hspace, hread⟩ := token?_of_text htext hend
    rw [List.cons_append, tokens?, hspace, if_neg Bool.false_ne_true, hread]
    dsimp only
    rw [List.drop_left, ih]
    rfl

theorem laid_of_tokens? {bs : List UInt8} {ts : List Token} (h : tokens? bs = some ts) : Laid ts bs := by
  fun_induction tokens? bs generalizing ts with
  | case1 =>
    cases h
    exact .nil
  | case2 b bs hspace ih => exact .space hspace (ih h)
  | case3 => cases h
  | case4 b bs hspace t used hread ih =>
    obtain ⟨us, hrest, rfl⟩ := Option.map_eq_some_iff.mp h
    obtain ⟨front, rest, rfl, rfl, htext, hend⟩ := tokenText_of_token? hread
    rw [List.drop_left] at hrest ih
    exact .token htext hend (ih hrest)

theorem tokens?_eq_some_iff {bs : List UInt8} {ts : List Token} : tokens? bs = some ts ↔ Laid ts bs :=
  ⟨laid_of_tokens?, tokens?_of_laid⟩

end OutageLedger.Json
