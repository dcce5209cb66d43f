import OutageLedger.Json.Reader
import OutageLedger.Json.Writer
import OutageLedger.Proofs.Json.Layout

/-
  JSON texts read back. The bytes of a text that was written are read as the tokens of the value
  (`reads_write`), and these denote the value (`moves_tokens`). Main statement: `ofBytes?_toText`, for values
  without numbers in which every string denotes a text.
-/

namespace OutageLedger

open Text

/-! ## Bytes of characters -/

namespace Text.Utf8

/-- Every byte of a character beyond ASCII has its highest bit set. -/
theorem le_of_mem_encodeChar {c : Char} (h : 0x80 ≤ c.toNat) {b : UInt8} (hb : b ∈ encodeChar c) :
    0x80 ≤ b.toNat := by
  have hvalid := toNat_valid c
  have hhigh : ∀ n, 0x80 ≤ n → n < 0x100 → 0x80 ≤ (UInt8.ofNat n).toNat := by
    intro n hn hn'
    rwa [toNat_ofNat_of_lt hn']
  unfold encodeChar at hb
  simp only [if_neg (Nat.not_lt.mpr h)] at hb
  split at hb
  · simp only [List.mem_cons, List.not_mem_nil, or_false] at hb
    rcases hb with rfl | rfl <;> exact hhigh _ (by omega) (by omega)
  · split at hb
    · simp only [List.mem_cons, List.not_mem_nil, or_false] at hb
      rcases hb with rfl | rfl | rfl <;> exact hhigh _ (by omega) (by omega)
    · simp only [List.mem_cons, List.not_mem_nil, or_false] at hb
      rcases hb with rfl | rfl | rfl | rfl <;> exact hhigh _ (by omega) (by omega)

theorem encode_append (cs ds : List Char) : encode (cs ++ ds) = encode cs ++ encode ds :=
  List.flatMap_append

end Text.Utf8

namespace Json

section

variable {c : Char}

theorem encodeChar_of_ascii (h : c.toNat < 0x80) : Utf8.encodeChar c = [charByte c] :=
  if_pos h

theorem encode_cons_of_ascii (h : c.toNat < 0x80) (cs : List Char) :
    Utf8.encode (c :: cs) = charByte c :: Utf8.encode cs := by
  rw [Utf8.encode, List.flatMap_cons, encodeChar_of_ascii h]
  rfl

theorem byteChar_charByte (h : c.toNat < 0x80) : byteChar (charByte c) = c := by
  unfold byteChar charByte
  rw [Utf8.toNat_ofNat_of_lt (by omega), Char.ofNat_toNat]

end

/-! ## Strings -/

/-- Inside a string, the bytes stand for pieces that denote the content. -/
def Spells (bs content : List UInt8) : Prop :=
  ∃ ps : List Piece,
    (∀ qs rest, PiecesText qs rest → PiecesText (ps ++ qs) (bs ++ rest)) ∧
    ∀ qs, assemble? (ps ++ qs) = (assemble? qs).map (content ++ ·)

theorem Spells.nil : Spells [] [] := by
  refine ⟨[], fun _ _ h => h, fun qs => ?_⟩
  show assemble? qs = _
  cases assemble? qs <;> rfl

theorem Spells.append {bs bs' content content' : List UInt8} (h : Spells bs content)
    (h' : Spells bs' content') : Spells (bs ++ bs') (content ++ content') := by
  obtain ⟨ps, htext, hmeans⟩ := h
  obtain ⟨ps', htext', hmeans'⟩ := h'
  refine ⟨ps ++ ps', fun qs rest hrest => ?_, fun qs => ?_⟩
  · rw [List.append_assoc, List.append_assoc]
    exact htext _ _ (htext' qs rest hrest)
  · rw [List.append_assoc, hmeans, hmeans', Option.map_map]
    congr 1
    funext bytes
    exact (List.append_assoc ..).symm

/-- A piece denotes what it is assembled to. -/
theorem spells_piece {p : Piece} {bs content : List UInt8} (h : PieceText p bs)
    (hmeans : ∀ qs, assemble? (p :: qs) = (assemble? qs).map (content ++ ·)) : Spells bs content :=
  ⟨[p], fun _ _ hrest => .piece h hrest, hmeans⟩

/-- Most bytes stand for themselves. -/
theorem spells_byte {b : UInt8} (hquote : byteChar b ≠ '"') (hslash : byteChar b ≠ '\\')
    (hlow : 0x20 ≤ b.toNat) : Spells [b] [b] :=
  spells_piece (.plain hquote hslash hlow) fun _ => rfl

theorem spells_bytes {bs : List UInt8} (h : ∀ b ∈ bs, 0x80 ≤ b.toNat) : Spells bs bs := by
  induction bs with
  | nil => exact .nil
  | cons b bs ih =>
    have hb := h b List.mem_cons_self
    have hbeyond : ∀ c : Char, c.toNat < 0x80 → byteChar b ≠ c := by
      rintro c hc rfl
      rw [toNat_byteChar] at hc
      omega
    exact (spells_byte (hbeyond _ (by decide)) (hbeyond _ (by decide)) (by omega)).append
      (ih fun b' hb' => h b' (List.mem_cons_of_mem b hb'))

/-- A backslash and a letter stand for a character. -/
theorem spells_escape {letter c : Char} (hletter : letter.toNat < 0x80) (hc : c.toNat < 0x80)
    (h : escaped? letter = some c) : Spells (Utf8.encode ['\\', letter]) (Utf8.encodeChar c) := by
  rw [encode_cons_of_ascii (by decide), encode_cons_of_ascii hletter, encodeChar_of_ascii hc]
  rw [← byteChar_charByte hletter] at h
  exact spells_piece (.escape h) fun _ => rfl

theorem toNat_hexDigit_lt (n : Nat) : (hexDigit n).toNat < 0x80 := by
  unfold hexDigit
  split
  · rw [toNat_ofNat_ascii (by omega)]
    omega
  · rw [toNat_ofNat_ascii (by omega)]
    omega

/-- A control character stands as its number. -/
theorem spells_control {c : Char} (h : c.toNat < 0x20) :
    Spells (Utf8.encode ('\\' :: 'u' :: hexFixed 4 c.toNat)) (Utf8.encodeChar c) := by
  let n := c.toNat
  have hhex : hexFixed 4 n = [hexDigit (n / 16 / 16 / 16), hexDigit (n / 16 / 16), hexDigit (n / 16),
    hexDigit n] := rfl
  have hvalue : hexValue? (hexFixed 4 n) = some n := by
    refine hexValue_hexFixed ?_
    rw [Nat.shiftRight_eq_div_pow]
    omega
  have hbytes : Utf8.encode ('\\' :: 'u' :: hexFixed 4 n) =
      charByte '\\' :: charByte 'u' :: (hexFixed 4 n).map charByte := by
    rw [hhex, encode_cons_of_ascii (by decide), encode_cons_of_ascii (by decide),
      encode_cons_of_ascii (toNat_hexDigit_lt _), encode_cons_of_ascii (toNat_hexDigit_lt _),
      encode_cons_of_ascii (toNat_hexDigit_lt _), encode_cons_of_ascii (toNat_hexDigit_lt _)]
    rfl
  rw [hbytes]
  rw [hhex] at hvalue ⊢
  have htext : hexValue? ([charByte (hexDigit (n / 16 / 16 / 16)), charByte (hexDigit (n / 16 / 16)),
      charByte (hexDigit (n / 16)), charByte (hexDigit n)].map byteChar) = some n := by
    simp only [List.map_cons, List.map_nil, byteChar_charByte (toNat_hexDigit_lt _), hvalue]
  -- a control character is no half of a pair
  have hlow : isLowSurrogate n = false := by
    unfold isLowSurrogate
    rw [Bool.and_eq_false_iff, decide_eq_false_iff_not]
    exact Or.inl (by omega)
  have hhigh : isHighSurrogate n = false := by
    unfold isHighSurrogate
    rw [Bool.and_eq_false_iff, decide_eq_false_iff_not]
    exact Or.inl (by omega)
  refine spells_piece (.unit htext) fun qs => ?_
  rw [assemble?.eq_def]
  dsimp only
  rw [hlow, hhigh, if_neg Bool.false_ne_true, if_neg Bool.false_ne_true, Char.ofNat_toNat]

/-- The form of a character in a string denotes the character. -/
theorem spells_quotedChar (c : Char) : Spells (Utf8.encode (quotedChar c)) (Utf8.encodeChar c) := by
  unfold quotedChar
  split
  · exact spells_escape (by decide) (by decide) rfl
  · exact spells_escape (by decide) (by decide) rfl
  · exact spells_escape (by decide) (by decide) rfl
  · exact spells_escape (by decide) (by decide) rfl
  · exact spells_escape (by decide) (by decide) rfl
  · exact spells_escape (by decide) (by decide) rfl
  · exact spells_escape (by decide) (by decide) rfl
  · rename_i hquote hslash _ _ _ _ _
    split
    · rename_i hcontrol
      exact spells_control hcontrol
    · rename_i hprinted
      rw [Utf8.encode, List.flatMap_singleton]
      by_cases hascii : c.toNat < 0x80
      · rw [encodeChar_of_ascii hascii]
        have hsame := byteChar_charByte hascii
        have hbyte : (charByte c).toNat = c.toNat := Utf8.toNat_ofNat_of_lt (by omega)
        refine spells_byte ?_ ?_ (by omega)
        · rw [hsame]
          exact hquote
        · rw [hsame]
          exact hslash
      · exact spells_bytes fun b hb => Utf8.le_of_mem_encodeChar (by omega) hb

theorem spells_text (cs : List Char) : Spells (Utf8.encode (cs.flatMap quotedChar)) (Utf8.encode cs) := by
  induction cs with
  | nil => exact .nil
  | cons c cs ih =>
    rw [List.flatMap_cons, Utf8.encode_append]
    exact (spells_quotedChar c).append ih

/-- A string that was written holds its text. -/
theorem piecesText_text (s : String) :
    ∃ ps, PiecesText ps (Utf8.encode (s.toList.flatMap quotedChar) ++ [charByte '"']) ∧ content? ps = some s := by
  obtain ⟨ps, htext, hmeans⟩ := spells_text s.toList
  have hbytes : assemble? ps = some (Utf8.encode s.toList) := by
    have hall := hmeans []
    rwa [List.append_nil, assemble?, Option.map_some, List.append_nil] at hall
  refine ⟨ps, ?_, ?_⟩
  · have hquoted := htext [] _ .quote
    rwa [List.append_nil] at hquoted
  · unfold content?
    rw [hbytes]
    show (Utf8.decode? (Utf8.encode s.toList)).map String.ofList = some s
    rw [Utf8.decode_encode, Option.map_some, String.ofList_toList]

/-! ## Tokens -/

/-- The bytes are read as these tokens, whatever comes after them. -/
def Reads (bs : List UInt8) (ts : List Token) : Prop :=
  ∀ rest, tokens? (bs ++ rest) = (tokens? rest).map (ts ++ ·)

theorem Reads.append {bs bs' : List UInt8} {ts ts' : List Token} (h : Reads bs ts) (h' : Reads bs' ts') :
    Reads (bs ++ bs') (ts ++ ts') := by
  intro rest
  rw [List.append_assoc, h, h', Option.map_map]
  congr 1
  funext us
  exact (List.append_assoc ..).symm

theorem reads_nil : Reads [] [] := by
  intro rest
  show tokens? rest = _
  cases tokens? rest <;> rfl

/-- What stands for a token is read as the token, but a number may go on. -/
theorem reads_text {t : Token} {bs : List UInt8} (h : TokenText t bs) (hnumber : t.isNumber = false) :
    Reads bs [t] := by
  intro rest
  obtain ⟨b, bs, rfl, hspace, hread⟩ := token?_of_text h (endsBefore_of_not_isNumber hnumber rest)
  rw [List.cons_append, tokens?, hspace, if_neg Bool.false_ne_true, hread]
  dsimp only
  rw [List.drop_left]
  rfl

theorem reads_mark {c : Char} {t : Token} (h : (c, t) ∈ marks) : Reads [charByte c] [t] :=
  reads_text (.mark h) (not_isNumber_of_mem_marks _ h)

theorem reads_comma : Reads (Utf8.encode [',']) [.comma] :=
  reads_mark (by simp [marks])

theorem reads_colon : Reads (Utf8.encode [':']) [.colon] :=
  reads_mark (by simp [marks])

theorem reads_quoted (s : String) : Reads (Utf8.encode (quoted (some s))) [.leaf (.text s)] := by
  obtain ⟨ps, htext, hmeans⟩ := piecesText_text s
  have hstring := TokenText.string htext
  rw [hmeans] at hstring
  rw [quoted, List.cons_append, encode_cons_of_ascii (by decide), Utf8.encode_append]
  exact reads_text hstring rfl

theorem reads_word (word : String) {value : Json} (h : (word, value) ∈ words) :
    Reads (word.toList.map charByte) [.leaf value] :=
  reads_text (.word h) (not_isNumber_of_mem_words _ h)

mutual

/-- No numbers, and every string denotes a text. -/
def isVerbal : Json → Bool
  | .null | .bool _ => true
  | .number _ => false
  | .string content => content.isSome
  | .array items => areVerbal items
  | .object members => areVerbalMembers members

def areVerbal : List Json → Bool
  | [] => true
  | item :: items => item.isVerbal && areVerbal items

def areVerbalMembers : List (Option String × Json) → Bool
  | [] => true
  | (name, value) :: members => name.isSome && value.isVerbal && areVerbalMembers members

end

mutual

/-- The tokens of a value. -/
def tokens : Json → List Token
  | .array items => .beginArray :: itemTokens items ++ [.endArray]
  | .object members => .beginObject :: memberTokens members ++ [.endObject]
  | value => [.leaf value]

def itemTokens : List Json → List Token
  | [] => []
  | [item] => tokens item
  | item :: items => tokens item ++ .comma :: itemTokens items

def memberTokens : List (Option String × Json) → List Token
  | [] => []
  | [(name, value)] => .leaf (.string name) :: .colon :: tokens value
  | (name, value) :: members =>
    .leaf (.string name) :: .colon :: tokens value ++ .comma :: memberTokens members

end

mutual

/-- What was written of a value is read as its tokens. -/
theorem reads_write : (j : Json) → j.isVerbal = true → Reads (Utf8.encode j.write) j.tokens
  | .null, _ => reads_word "null" (by simp [words])
  | .bool true, _ => reads_word "true" (by simp [words])
  | .bool false, _ => reads_word "false" (by simp [words])
  | .number _, h => absurd h Bool.false_ne_true
  | .string none, h => absurd h Bool.false_ne_true
  | .string (some s), _ => reads_quoted s
  | .array items, h => by
    have hopen : Reads (Utf8.encode ['[']) [.beginArray] := reads_mark (by simp [marks])
    have hclose : Reads (Utf8.encode [']']) [.endArray] := reads_mark (by simp [marks])
    have hsplit : (array items).write = ['['] ++ (writeItems items ++ [']']) := by
      rw [write]
      rfl
    rw [hsplit, Utf8.encode_append, Utf8.encode_append]
    exact hopen.append ((reads_writeItems items h).append hclose)
  | .object members, h => by
    have hopen : Reads (Utf8.encode ['\x7b']) [.beginObject] := reads_mark (by simp [marks])
    have hclose : Reads (Utf8.encode ['\x7d']) [.endObject] := reads_mark (by simp [marks])
    have hsplit : (object members).write = ['\x7b'] ++ (writeMembers members ++ ['\x7d']) := by
      rw [write]
      rfl
    rw [hsplit, Utf8.encode_append, Utf8.encode_append]
    exact hopen.append ((reads_writeMembers members h).append hclose)

theorem reads_writeItems : (items : List Json) → areVerbal items = true →
    Reads (Utf8.encode (writeItems items)) (itemTokens items)
  | [], _ => reads_nil
  | [item], h => by
    rw [areVerbal, Bool.and_eq_true] at h
    exact reads_write item h.1
  | item :: item' :: items, h => by
    rw [areVerbal, Bool.and_eq_true] at h
    have hrest := reads_writeItems (item' :: items) h.2
    have hsplit : writeItems (item :: item' :: items) =
        item.write ++ ([','] ++ writeItems (item' :: items)) := rfl
    rw [hsplit, Utf8.encode_append, Utf8.encode_append]
    exact (reads_write item h.1).append (reads_comma.append hrest)

theorem reads_writeMembers : (members : List (Option String × Json)) → areVerbalMembers members = true →
    Reads (Utf8.encode (writeMembers members)) (memberTokens members)
  | [], _ => reads_nil
  | [(none, value)], h => absurd h Bool.false_ne_true
  | [(some name, value)], h => by
    rw [areVerbalMembers, Bool.and_eq_true, Bool.and_eq_true] at h
    have hsplit : writeMembers [(some name, value)] = quoted (some name) ++ ([':'] ++ value.write) := rfl
    rw [hsplit, Utf8.encode_append, Utf8.encode_append]
    exact (reads_quoted name).append (reads_colon.append (reads_write value h.1.2))
  | (none, value) :: member :: members, h => absurd h Bool.false_ne_true
  | (some name, value) :: member :: members, h => by
    rw [areVerbalMembers, Bool.and_eq_true, Bool.and_eq_true] at h
    have hrest := reads_writeMembers (member :: members) h.2
    have hsplit : writeMembers ((some name, value) :: member :: members) =
        quoted (some name) ++ ([':'] ++ (value.write ++ ([','] ++ writeMembers (member :: members)))) := by
      rw [writeMembers, List.append_assoc]
      · rfl
      · exact List.cons_ne_nil member members
    rw [hsplit, Utf8.encode_append, Utf8.encode_append, Utf8.encode_append, Utf8.encode_append]
    exact (reads_quoted name).append
      (reads_colon.append ((reads_write value h.1.2).append (reads_comma.append hrest)))

end

/-! ## Values -/

/-- The tokens lead from one state to another. -/
def Moves (ts : List Token) (s s' : State) : Prop :=
  ts.foldlM State.step s = some s'

section

variable {ts us : List Token} {s m s' : State}

theorem Moves.append (h : Moves ts s m) (h' : Moves us m s') : Moves (ts ++ us) s s' := by
  unfold Moves
  rw [List.foldlM_append, show ts.foldlM State.step s = some m from h]
  exact h'

theorem Moves.cons {t : Token} (hstep : s.step t = some m) (h : Moves ts m s') : Moves (t :: ts) s s' := by
  unfold Moves
  rw [List.foldlM_cons, hstep]
  exact h

theorem moves_one {t : Token} (hstep : s.step t = some s') : Moves [t] s s' :=
  .cons hstep rfl

end

/-- What stands first in an array is taken as what stands after a comma. -/
theorem moves_firstItem {j : Json} {ts : List Token} {frames : List Frame} {s : State}
    (h : Moves (j.tokens ++ ts) (.value (.array [] :: frames)) s) :
    Moves (j.tokens ++ ts) (.firstItem frames) s := by
  cases j <;> exact h

theorem itemTokens_cons (item item' : Json) (items : List Json) :
    itemTokens (item :: item' :: items) = item.tokens ++ .comma :: itemTokens (item' :: items) := by
  rw [itemTokens]
  exact List.cons_ne_nil item' items

theorem memberTokens_cons (name : Option String) (value : Json) (member : Option String × Json)
    (members : List (Option String × Json)) :
    memberTokens ((name, value) :: member :: members) =
      .leaf (.string name) :: .colon :: value.tokens ++ .comma :: memberTokens (member :: members) := by
  rw [memberTokens]
  exact List.cons_ne_nil member members

/-- An array is read if its items are, the first as the others. -/
theorem moves_array {items : List Json} {frames : List Frame}
    (h : items ≠ [] → Moves (itemTokens items ++ [.endArray]) (.value (.array [] :: frames))
      (.follow (.array items) frames)) :
    Moves (array items).tokens (.value frames) (.follow (.array items) frames) := by
  match items, h with
  | [], _ => rfl
  | [item], h => exact .cons rfl (moves_firstItem (h (List.cons_ne_nil _ _)))
  | item :: item' :: items, h =>
    -- only the first item is read from another state than after a comma
    have hitems := h (List.cons_ne_nil _ _)
    rw [itemTokens_cons, List.append_assoc] at hitems
    have htokens : (array (item :: item' :: items)).tokens =
        .beginArray :: (item.tokens ++ (.comma :: itemTokens (item' :: items) ++ [.endArray])) := by
      rw [tokens, itemTokens_cons, List.cons_append, List.append_assoc]
    rw [htokens]
    exact .cons rfl (moves_firstItem hitems)

/-- An object is read if its members are. -/
theorem moves_object {members : List (Option String × Json)} {frames : List Frame}
    (h : members ≠ [] → Moves (memberTokens members ++ [.endObject]) (.name [] frames)
      (.follow (.object members) frames)) :
    Moves (object members).tokens (.value frames) (.follow (.object members) frames) := by
  match members, h with
  | [], _ => rfl
  | [(name, value)], h => exact .cons rfl (h (List.cons_ne_nil _ _))
  | (name, value) :: member :: members, h =>
    have hmembers := h (List.cons_ne_nil _ _)
    rw [memberTokens_cons] at hmembers
    refine .cons rfl ?_
    rw [memberTokens_cons]
    exact hmembers

mutual

/-- The tokens of a value denote the value. -/
theorem moves_tokens : (j : Json) → (frames : List Frame) →
    Moves j.tokens (.value frames) (.follow j frames)
  | .null, _ | .bool _, _ | .number _, _ | .string _, _ => rfl
  | .array items, frames => moves_array fun h => moves_itemTokens items [] frames h
  | .object members, frames => moves_object fun h => moves_memberTokens members [] frames h

theorem moves_itemTokens : (items : List Json) → (done : List Json) → (frames : List Frame) →
    items ≠ [] → Moves (itemTokens items ++ [.endArray]) (.value (.array done :: frames))
      (.follow (.array (done.reverse ++ items)) frames)
  | [], _, _, h => absurd rfl h
  | [item], done, frames, _ => by
    refine (moves_tokens item _).append (moves_one ?_)
    rw [← List.reverse_cons]
    rfl
  | item :: item' :: items, done, frames, _ => by
    have hrest := moves_itemTokens (item' :: items) (item :: done) frames (List.cons_ne_nil _ _)
    rw [List.reverse_cons, List.append_assoc] at hrest
    rw [itemTokens_cons, List.append_assoc]
    exact (moves_tokens item _).append (.cons rfl hrest)

theorem moves_memberTokens : (members : List (Option String × Json)) →
    (done : List (Option String × Json)) → (frames : List Frame) →
    members ≠ [] → Moves (memberTokens members ++ [.endObject]) (.name done frames)
      (.follow (.object (done.reverse ++ members)) frames)
  | [], _, _, h => absurd rfl h
  | [(name, value)], done, frames, _ => by
    refine .cons rfl (.cons rfl ((moves_tokens value _).append (moves_one ?_)))
    rw [← List.reverse_cons]
    rfl
  | (name, value) :: member :: members, done, frames, _ => by
    have hrest := moves_memberTokens (member :: members) ((name, value) :: done) frames
      (List.cons_ne_nil _ _)
    rw [List.reverse_cons, List.append_assoc] at hrest
    rw [memberTokens_cons, List.append_assoc]
    exact .cons rfl (.cons rfl ((moves_tokens value _).append (.cons rfl hrest)))

end

theorem ofTokens?_tokens (j : Json) : ofTokens? j.tokens = some j := by
  have hvalue : j.tokens.foldlM State.step (.value []) = some (.follow j []) := moves_tokens j []
  unfold ofTokens?
  rw [hvalue]
  rfl

/-- A text that was written is read as its value. -/
theorem ofBytes?_toText {j : Json} (h : j.isVerbal = true) :
    ofBytes? (Utf8.encode j.toText.toList) = some j := by
  have htokens : tokens? (Utf8.encode j.write) = some j.tokens := by
    have hread := reads_write j h []
    rwa [List.append_nil, tokens?, Option.map_some, List.append_nil] at hread
  unfold ofBytes? toText
  rw [String.toList_ofList, htokens]
  exact ofTokens?_tokens j

end Json

end OutageLedger
