/-
  Programs as trees of calls. A program makes one call at a time and goes on as the reply says; what a
  call does is decided by whoever runs the program. Main statements: programs are a lawful monad, and
  `run_bind`, running a sequence runs its parts one after the other.
-/

namespace OutageLedger

/-- The calls that programs may make, and what each of them is answered with. -/
structure Signature where
  Call : Type
  Reply : Call → Type

/-- A program that ends with a result, or makes a call and goes on with the reply. -/
inductive Program (S : Signature) (α : Type) : Type
  | done (result : α)
  | call (c : S.Call) (next : S.Reply c → Program S α)

/-- Answers calls, keeping a state from call to call. -/
abbrev Handler (S : Signature) (σ : Type) : Type :=
  (c : S.Call) → σ → S.Reply c × σ

namespace Program

variable {S T : Signature} {α β σ : Type}

def bind : Program S α → (α → Program S β) → Program S β
  | .done a, f => f a
  | .call c next, f => .call c fun r => (next r).bind f

instance : Monad (Program S) where
  pure := done
  bind := bind

/-- The program that makes one call and returns the reply. -/
def perform (c : S.Call) : Program S (S.Reply c) :=
  .call c .done

/-- Runs a program with a handler from a state. -/
def run (handler : Handler S σ) : Program S α → σ → α × σ
  | .done a, s => (a, s)
  | .call c next, s => (next (handler c s).1).run handler (handler c s).2

/-- Runs a program in a monad that answers its calls. -/
def runIn {m : Type → Type} [Monad m] (answer : (c : S.Call) → m (S.Reply c)) : Program S α → m α
  | .done a => pure a
  | .call c next => do
    let reply ← answer c
    (next reply).runIn answer

/-- Replaces every call by a program over other calls. -/
def interpret (f : (c : S.Call) → Program T (S.Reply c)) : Program S α → Program T α
  | .done a => .done a
  | .call c next => (f c).bind fun r => (next r).interpret f

/-! ## Laws -/

@[simp]
theorem done_bind (a : α) (f : α → Program S β) : (done a : Program S α) >>= f = f a :=
  rfl

@[simp]
theorem call_bind (c : S.Call) (next : S.Reply c → Program S α) (f : α → Program S β) :
    call c next >>= f = call c fun r => next r >>= f :=
  rfl

@[simp]
theorem perform_bind (c : S.Call) (f : S.Reply c → Program S β) : perform c >>= f = call c f :=
  rfl

theorem bind_done (p : Program S α) : p.bind done = p := by
  induction p with
  | done a => rfl
  | call c next ih => simp only [bind, ih]

theorem bind_assoc' {γ : Type} (p : Program S α) (f : α → Program S β) (g : β → Program S γ) :
    (p.bind f).bind g = p.bind fun a => (f a).bind g := by
  induction p with
  | done a => rfl
  | call c next ih => simp only [bind, ih]

instance : LawfulMonad (Program S) :=
  LawfulMonad.mk' (Program S)
    (fun p => bind_done p)
    (fun _ _ => rfl)
    (fun p f g => bind_assoc' p f g)

@[simp]
theorem run_done (handler : Handler S σ) (a : α) (s : σ) : (done a).run handler s = (a, s) :=
  rfl

@[simp]
theorem run_call (handler : Handler S σ) (c : S.Call) (next : S.Reply c → Program S α) (s : σ) :
    (call c next).run handler s = (next (handler c s).1).run handler (handler c s).2 :=
  rfl

theorem run_bind (handler : Handler S σ) (p : Program S α) (f : α → Program S β) (s : σ) :
    (p >>= f).run handler s = (f (p.run handler s).1).run handler (p.run handler s).2 := by
  induction p generalizing s with
  | done a => rfl
  | call c next ih => exact ih _ _

end Program

end OutageLedger
