import OutageLedger.Program

/-
  What programs do, turn by turn. A turn is a call with the reply to it; a program is deterministic once
  the replies are known, so that everything it can do is said by the lists of turns that it can take.
  Whether the replies are those that a store or a service would give is judged afterwards, on the list.
  Main statements: `leads_append` and `ends_bind_iff`, the turns of a sequence are those of its parts,
  `ends_turns`, a program run with a handler takes the turns that the handler makes of it, and
  `filterMap_turns_interpret`, what shows of a program whose calls are carried out by other programs.
-/

namespace OutageLedger.Program

variable {S : Signature} {α β σ : Type}

/-- A call with the reply to it. -/
structure Turn (S : Signature) where
  call : S.Call
  reply : S.Reply call

/-- After these turns, the second program is left of the first. -/
inductive Leads : Program S α → List (Turn S) → Program S α → Prop
  | stay (p : Program S α) : Leads p [] p
  | turn (c : S.Call) (next : S.Reply c → Program S α) (r : S.Reply c) {ts : List (Turn S)}
      {p : Program S α} : Leads (next r) ts p → Leads (call c next) (⟨c, r⟩ :: ts) p

/-- After these turns, the program ends with a result. -/
def Ends (p : Program S α) (ts : List (Turn S)) (a : α) : Prop :=
  Leads p ts (done a)

/-- A run of a program from its start to its end. -/
structure Run (p : Program S α) where
  turns : List (Turn S)
  result : α
  ends : p.Ends turns result

/-- The result of a program that has ended. -/
def result? : Program S α → Option α
  | done a => some a
  | call .. => none

theorem eq_done_of_result? {p : Program S α} {a : α} (h : p.result? = some a) : p = done a := by
  cases p with
  | done b => rw [Option.some.inj h]
  | call c next => cases h

/-! ## Inversion -/

theorem leads_nil_iff {p q : Program S α} : Leads p [] q ↔ q = p := by
  constructor
  · intro h
    cases h
    rfl
  · rintro rfl
    exact .stay q

theorem leads_cons_iff {p q : Program S α} {t : Turn S} {ts : List (Turn S)} :
    Leads p (t :: ts) q ↔
      ∃ c next r, p = call c next ∧ t = ⟨c, r⟩ ∧ Leads (next r) ts q := by
  constructor
  · intro h
    cases h with
    | turn c next r h => exact ⟨c, next, r, rfl, rfl, h⟩
  · rintro ⟨c, next, r, rfl, rfl, h⟩
    exact .turn c next r h

theorem ends_done_iff {a b : α} {ts : List (Turn S)} :
    (done a : Program S α).Ends ts b ↔ ts = [] ∧ b = a := by
  constructor
  · intro h
    cases h
    exact ⟨rfl, rfl⟩
  · rintro ⟨rfl, rfl⟩
    exact .stay _

theorem ends_call_iff {c : S.Call} {next : S.Reply c → Program S α} {ts : List (Turn S)} {a : α} :
    (call c next).Ends ts a ↔ ∃ r rest, ts = ⟨c, r⟩ :: rest ∧ (next r).Ends rest a := by
  constructor
  · intro h
    cases h with
    | turn _ _ r h => exact ⟨r, _, rfl, h⟩
  · rintro ⟨r, rest, rfl, h⟩
    exact .turn c next r h

/-! ## Sequences -/

theorem leads_append {p q : Program S α} {ts us : List (Turn S)} :
    Leads p (ts ++ us) q ↔ ∃ m, Leads p ts m ∧ Leads m us q := by
  constructor
  · intro h
    induction ts generalizing p with
    | nil => exact ⟨p, .stay p, h⟩
    | cons t ts ih =>
      obtain ⟨c, next, r, rfl, rfl, hrest⟩ := leads_cons_iff.mp h
      obtain ⟨m, h1, h2⟩ := ih hrest
      exact ⟨m, .turn c next r h1, h2⟩
  · rintro ⟨m, h1, h2⟩
    induction h1 with
    | stay p => exact h2
    | turn c next r _ ih => exact .turn c next r (ih h2)

theorem leads_bind {p q : Program S α} {ts : List (Turn S)} (h : Leads p ts q)
    (f : α → Program S β) : Leads (p >>= f) ts (q >>= f) := by
  induction h with
  | stay p => exact .stay _
  | turn c next r _ ih => exact .turn c (fun r => next r >>= f) r ih

/-- A sequence ends where its second part ends, which begins where the first ended. -/
theorem ends_bind_iff {p : Program S α} {f : α → Program S β} {ts : List (Turn S)} {b : β} :
    (p >>= f).Ends ts b ↔
      ∃ us vs a, ts = us ++ vs ∧ p.Ends us a ∧ (f a).Ends vs b := by
  constructor
  · intro h
    induction p generalizing ts with
    | done a => exact ⟨[], ts, a, rfl, .stay _, h⟩
    | call c next ih =>
      obtain ⟨r, rest, rfl, hrest⟩ := ends_call_iff.mp h
      obtain ⟨us, vs, a, rfl, h1, h2⟩ := ih r hrest
      exact ⟨⟨c, r⟩ :: us, vs, a, rfl, .turn c next r h1, h2⟩
  · rintro ⟨us, vs, a, rfl, h1, h2⟩
    exact leads_append.mpr ⟨f a, leads_bind h1 f, h2⟩

theorem ends_map_iff {p : Program S α} {f : α → β} {ts : List (Turn S)} {b : β} :
    (f <$> p).Ends ts b ↔ ∃ a, p.Ends ts a ∧ b = f a := by
  rw [map_eq_pure_bind, ends_bind_iff]
  constructor
  · rintro ⟨us, vs, a, rfl, h1, h2⟩
    obtain ⟨rfl, rfl⟩ := ends_done_iff.mp h2
    exact ⟨a, by simpa using h1, rfl⟩
  · rintro ⟨a, h, rfl⟩
    exact ⟨ts, [], a, by simp, h, .stay _⟩

/-! ## Calls that are made -/

/-- Whatever the replies are, the program makes only calls for which `P` holds. -/
def Makes (P : S.Call → Prop) : Program S α → Prop
  | done _ => True
  | call c next => P c ∧ ∀ r, (next r).Makes P

theorem Makes.bind {P : S.Call → Prop} {p : Program S α} {f : α → Program S β} (h : p.Makes P)
    (hf : ∀ a, (f a).Makes P) : (p >>= f).Makes P := by
  induction p with
  | done a => exact hf a
  | call c next ih => exact ⟨h.1, fun r => ih r (h.2 r)⟩

theorem Makes.mono {P Q : S.Call → Prop} {p : Program S α} (h : p.Makes P) (hPQ : ∀ c, P c → Q c) :
    p.Makes Q := by
  induction p with
  | done a => exact trivial
  | call c next ih => exact ⟨hPQ c h.1, fun r => ih r (h.2 r)⟩

theorem Makes.of_leads {P : S.Call → Prop} {p q : Program S α} {ts : List (Turn S)}
    (h : p.Makes P) (hleads : Leads p ts q) : ∀ t ∈ ts, P t.call := by
  induction hleads with
  | stay p => exact fun t ht => absurd ht List.not_mem_nil
  | turn c next r _ ih =>
    intro t ht
    rcases List.mem_cons.mp ht with rfl | ht
    · exact h.1
    · exact ih (h.2 r) t ht

/-! ## Runs with a handler -/

/-- The turns that a handler makes of a program. -/
def turns (handler : Handler S σ) : Program S α → σ → List (Turn S)
  | done _, _ => []
  | call c next, s => ⟨c, (handler c s).1⟩ :: (next (handler c s).1).turns handler (handler c s).2

theorem turns_bind (handler : Handler S σ) (p : Program S α) (f : α → Program S β) (s : σ) :
    (p >>= f).turns handler s =
      p.turns handler s ++ (f (p.run handler s).1).turns handler (p.run handler s).2 := by
  induction p generalizing s with
  | done a => rfl
  | call c next ih => exact congrArg (_ :: ·) (ih _ _)

theorem ends_turns (handler : Handler S σ) (p : Program S α) (s : σ) :
    p.Ends (p.turns handler s) (p.run handler s).1 := by
  induction p generalizing s with
  | done a => exact .stay _
  | call c next ih => exact .turn c next _ (ih _ _)

/-- Each reply is given by the handler in some state. -/
theorem mem_turns {handler : Handler S σ} {p : Program S α} {s : σ} {t : Turn S}
    (h : t ∈ p.turns handler s) : ∃ s', t.reply = (handler t.call s').1 := by
  induction p generalizing s with
  | done a => exact absurd h List.not_mem_nil
  | call c next ih =>
    rcases List.mem_cons.mp h with rfl | h
    · exact ⟨s, rfl⟩
    · exact ih _ h

/-! ## Programs in place of calls -/

section

variable {T : Signature} {γ : Type} (handler : Handler T σ) (f : (c : S.Call) → Program T (S.Reply c))

/-- Where each call is carried out by a program, the handler of that program is one of the calls. -/
theorem run_interpret (p : Program S α) (s : σ) :
    (p.interpret f).run handler s = p.run (fun c s => (f c).run handler s) s := by
  induction p generalizing s with
  | done a => rfl
  | call c next ih =>
    show Program.run handler (f c >>= fun r => (next r).interpret f) s = _
    rw [run_bind]
    exact ih _ _

/-- What is kept of the turns, if each call is carried out by turns of which as much is kept as of the call. -/
theorem filterMap_turns_interpret {g : Turn T → Option γ} {g' : Turn S → Option γ}
    (h : ∀ c s, ((f c).turns handler s).filterMap g = (g' ⟨c, ((f c).run handler s).1⟩).toList)
    (p : Program S α) (s : σ) :
    ((p.interpret f).turns handler s).filterMap g =
      (p.turns (fun c s => (f c).run handler s) s).filterMap g' := by
  induction p generalizing s with
  | done a => rfl
  | call c next ih =>
    show (Program.turns handler (f c >>= fun r => (next r).interpret f) s).filterMap g = _
    rw [turns_bind, List.filterMap_append, h, ih]
    rw [turns, List.filterMap_cons]
    cases g' ⟨c, ((f c).run handler s).1⟩ <;> rfl

end

/-- The run that a handler makes of a program. -/
def runOf (handler : Handler S σ) (p : Program S α) (s : σ) : Run p :=
  ⟨p.turns handler s, (p.run handler s).1, p.ends_turns handler s⟩

end OutageLedger.Program
