import OutageLedger.Proofs.Program.Turns

/-
  Programs among others. A contract says, by a view that a program keeps of its own work, which calls it
  may make and which replies it has to expect however the others interfere. A program that keeps to the
  contract does so after each turn (`Keeps.turn`), and a sequence keeps to it if its parts do
  (`Keeps.bind`).
-/

namespace OutageLedger

/-- Which calls a program may make with a view, which replies it has to expect, and its view after. -/
structure Contract (S : Signature) (γ : Type) where
  permits : γ → S.Call → Prop
  expects : γ → (c : S.Call) → S.Reply c → Prop
  after : γ → (c : S.Call) → S.Reply c → γ

namespace Program

variable {S : Signature} {α β γ : Type} {K : Contract S γ} {Q R : α → γ → Prop}

/-- With this view, the program makes only calls that are permitted, whatever expected replies it is
given, and ends with a result and a view for which `Q` holds. -/
def Keeps (K : Contract S γ) (Q : α → γ → Prop) : Program S α → γ → Prop
  | done a, g => Q a g
  | call c next, g =>
    K.permits g c ∧ ∀ r, K.expects g c r → (next r).Keeps K Q (K.after g c r)

theorem Keeps.turn {c : S.Call} {next : S.Reply c → Program S α} {g : γ}
    (h : (call c next).Keeps K Q g) {r : S.Reply c} (hr : K.expects g c r) :
    (next r).Keeps K Q (K.after g c r) :=
  h.2 r hr

theorem Keeps.mono {p : Program S α} {g : γ} (h : p.Keeps K Q g) (hQ : ∀ a g, Q a g → R a g) :
    p.Keeps K R g := by
  induction p generalizing g with
  | done a => exact hQ a g h
  | call c next ih => exact ⟨h.1, fun r hr => ih r (h.2 r hr)⟩

theorem Keeps.bind {p : Program S α} {f : α → Program S β} {R : β → γ → Prop} {g : γ}
    (h : p.Keeps K (fun a g => (f a).Keeps K R g) g) : (p >>= f).Keeps K R g := by
  induction p generalizing g with
  | done a => exact h
  | call c next ih => exact ⟨h.1, fun r hr => ih r (h.2 r hr)⟩

/-- What is left after some turns is said by the turns. -/
theorem leads_unique {p q q' : Program S α} {ts : List (Turn S)} (h : Leads p ts q)
    (h' : Leads p ts q') : q = q' := by
  induction h with
  | stay p => exact (leads_nil_iff.mp h').symm
  | turn c next r _ ih =>
    cases h' with
    | turn _ _ _ h' => exact ih h'

end Program

end OutageLedger
