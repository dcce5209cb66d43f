import OutageLedger.Proofs.Json.ReadBack

/-
  Values and their texts. The machine that takes tokens one at a time has taken those of the values that it holds
  (`tokens_step`), so it takes the tokens of a value and no others (`ofTokens?_eq_some_iff`). Main statement:
  `ofBytes?_eq_some_iff`, a value is read from its texts and from no others, however they are laid out and however
  deep it is nested.
-/

namespace OutageLedger.Json

/-- The bytes are a text for the value. -/
def Written (j : Json) (bs : List UInt8) : Prop :=
  Laid j.tokens bs

/-! ## Tokens of texts -/

/-- The token holds no other value. -/
def Token.isPlain : Token → Bool
  | .leaf (.array _) | .leaf (.object _) => false
  | _ => true

theorem TokenText.isPlain {t : Token} {bs : List UInt8} (h : TokenText t bs) : t.isPlain = true := by
  have hmarks : ∀ p ∈ marks, p.2.isPlain = true := by
    decide
  have hwords : ∀ p ∈ words, (Token.leaf p.2).isPlain = true := by
    decide
  cases h with
  | mark h => exact hmarks _ h
  | word h => exact hwords _ h
  | number => rfl
  | string => rfl

theorem Laid.isPlain {ts : List Token} {bs : List UInt8} (h : Laid ts bs) : ∀ t ∈ ts, t.isPlain = true := by
  induction h with
  | nil => exact List.forall_mem_nil _
  | space _ _ ih => exact ih
  | token htext _ _ ih => exact List.forall_mem_cons.mpr ⟨htext.isPlain, ih⟩

/-- The tokens of items with a comma after each. -/
def itemsBefore (items : List Json) : List Token :=
  items.flatMap fun item => item.tokens ++ [.comma]

/-- The tokens of members with a comma after each. -/
def membersBefore (members : List (Option String × Json)) : List Token :=
  members.flatMap fun m => .leaf (.string m.1) :: .colon :: m.2.tokens ++ [.comma]

/-- The tokens of what is open so far. -/
def Frame.tokens : Frame → List Token
  | .array done => .beginArray :: itemsBefore done.reverse
  | .object done key => .beginObject :: membersBefore done.reverse ++ [.leaf (.string key), .colon]

def framesTokens (frames : List Frame) : List Token :=
  frames.reverse.flatMap Frame.tokens

/-- The tokens that lead to a state. -/
def State.tokens : State → List Token
  | .value frames => framesTokens frames
  | .firstItem frames => framesTokens frames ++ [.beginArray]
  | .firstName frames => framesTokens frames ++ [.beginObject]
  | .name done frames => framesTokens frames ++ .beginObject :: membersBefore done.reverse
  | .colon done key frames =>
    framesTokens frames ++ .beginObject :: membersBefore done.reverse ++ [.leaf (.string key)]
  | .follow v frames => framesTokens frames ++ v.tokens

theorem framesTokens_cons (f : Frame) (frames : List Frame) :
    framesTokens (f :: frames) = framesTokens frames ++ f.tokens := by
  simp [framesTokens]

theorem itemTokens_append (items : List Json) (item : Json) :
    itemTokens (items ++ [item]) = itemsBefore items ++ item.tokens := by
  induction items with
  | nil => simp [itemTokens, itemsBefore]
  | cons i items ih =>
    cases items with
    | nil => simp [itemTokens, itemsBefore]
    | cons i' items =>
      rw [List.cons_append, List.cons_append, itemTokens_cons, ← List.cons_append, ih]
      simp [itemsBefore]

theorem memberTokens_append (members : List (Option String × Json)) (m : Option String × Json) :
    memberTokens (members ++ [m]) = membersBefore members ++ .leaf (.string m.1) :: .colon :: m.2.tokens := by
  induction members with
  | nil => simp [memberTokens, membersBefore]
  | cons i members ih =>
    cases members with
    | nil => simp [memberTokens, membersBefore]
    | cons i' members =>
      rw [List.cons_append, List.cons_append, memberTokens_cons, ← List.cons_append, ih]
      simp [membersBefore]

theorem tokens_begin {frames : List Frame} {s : State} {t : Token} (ht : t.isPlain = true)
    (h : State.begin frames t = some s) : s.tokens = framesTokens frames ++ [t] := by
  unfold State.begin at h
  split at h
  · rename_i v
    cases h
    cases v <;> first | rfl | cases ht
  · cases h
    rfl
  · cases h
    rfl
  · cases h

/-- A step adds its token to those that led to the state. -/
theorem tokens_step {s s' : State} {t : Token} (ht : t.isPlain = true) (h : s.step t = some s') :
    s'.tokens = s.tokens ++ [t] := by
  unfold State.step at h
  split at h
  case h_1 => exact tokens_begin ht h
  case h_3 =>
    rw [tokens_begin ht h, framesTokens_cons]
    rfl
  case h_12 => cases h
  case h_2 | h_4 =>
    cases h
    simp [State.tokens, tokens, itemTokens, memberTokens]
  case h_9 | h_11 =>
    cases h
    simp [State.tokens, tokens, framesTokens_cons, Frame.tokens, itemTokens_append, memberTokens_append]
  all_goals
    cases h
    simp [State.tokens, framesTokens_cons, Frame.tokens, itemsBefore, membersBefore]

theorem tokens_of_moves {ts : List Token} {s s' : State} (hplain : ∀ t ∈ ts, t.isPlain = true) (h : Moves ts s s') :
    s'.tokens = s.tokens ++ ts := by
  induction ts generalizing s with
  | nil =>
    cases h
    exact (List.append_nil _).symm
  | cons t ts ih =>
    obtain ⟨ht, hts⟩ := List.forall_mem_cons.mp hplain
    unfold Moves at h
    rw [List.foldlM_cons] at h
    obtain ⟨m, hstep, hrest⟩ := Option.bind_eq_some_iff.mp h
    rw [ih hts hrest, tokens_step ht hstep, List.append_assoc]
    rfl

/-- The tokens of a value, and no others, denote it. -/
theorem ofTokens?_eq_some_iff {ts : List Token} (hplain : ∀ t ∈ ts, t.isPlain = true) {j : Json} :
    ofTokens? ts = some j ↔ ts = j.tokens := by
  constructor
  · intro h
    obtain ⟨s, hmoves, hresult⟩ := Option.bind_eq_some_iff.mp h
    have htokens := tokens_of_moves hplain hmoves
    unfold State.result? at hresult
    split at hresult
    · cases hresult
      exact htokens.symm
    · cases hresult
  · rintro rfl
    exact ofTokens?_tokens j

/-- A value is read from its texts and from no others. -/
theorem ofBytes?_eq_some_iff {bs : List UInt8} {j : Json} : ofBytes? bs = some j ↔ j.Written bs := by
  constructor
  · intro h
    obtain ⟨ts, htokens, hvalue⟩ := Option.bind_eq_some_iff.mp h
    have hlaid := laid_of_tokens? htokens
    rw [ofTokens?_eq_some_iff hlaid.isPlain] at hvalue
    rwa [hvalue] at hlaid
  · intro h
    unfold ofBytes?
    rw [tokens?_of_laid h]
    exact ofTokens?_tokens j

end OutageLedger.Json
