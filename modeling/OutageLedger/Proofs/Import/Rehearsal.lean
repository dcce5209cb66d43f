import OutageLedger.Import.Rehearsal
import OutageLedger.Proofs.Import.Turns

/-
  The turns of a rehearsal are such as its store gives: without faults the store performs every call
  (`serves_turns`), and with faults that are errors of its own it may refuse some
  (`serves_turns_of_backend`).
-/

namespace OutageLedger.Stage

open Store

variable {π α : Type} {s : Stage π}

/-- Turns are served if each call to the store is, and no other call touches it. -/
theorem serves_turns_of_rule {rule : Rule}
    (hcall : ∀ (c : StoreCall) (r : Rehearsal π),
      rule r.store c (r.call s.faults c).1 (r.call s.faults c).2.store)
    (p : Program importing α) (r : Rehearsal π) :
    Serves rule r.store (p.turns s.handler r) (p.run s.handler r).2.store := by
  induction p generalizing r with
  | done a => rfl
  | call c next ih =>
    cases c with
    | store c => exact ⟨_, hcall c r, ih _ _⟩
    | ask q => exact ih _ (s.handler (.ask q) r).2
    | pause => exact ih _ (s.handler .pause r).2
    | now => exact ih _ r
    | newId => exact ih _ (s.handler .newId r).2
    | note e => exact ih _ (s.handler (.note e) r).2

theorem serves_turns (h : s.faults = []) (p : Program importing α) (r : Rehearsal π) :
    Serves Performs r.store (p.turns s.handler r) (p.run s.handler r).2.store := by
  refine serves_turns_of_rule (fun c r => ?_) p r
  unfold Rehearsal.call
  rw [h]
  rfl

theorem serves_turns_of_backend (h : ∀ f ∈ s.faults, ∃ detail, f.fault = .backend detail)
    (p : Program importing α) (r : Rehearsal π) :
    Serves MayRefuse r.store (p.turns s.handler r) (p.run s.handler r).2.store := by
  refine serves_turns_of_rule (fun c r => ?_) p r
  unfold Rehearsal.call
  cases hf : faultAt? s.faults c.kind (r.callsOf c.kind) with
  | none => exact Or.inl rfl
  | some f =>
    obtain ⟨planned, hplanned, rfl⟩ := Option.map_eq_some_iff.mp hf
    obtain ⟨detail, hdetail⟩ := h planned (List.mem_of_find?_eq_some hplanned)
    refine Or.inr ⟨⟨.other detail, ?_⟩, rfl⟩
    rw [hdetail]
    rfl

end OutageLedger.Stage

/-! ## A small stage -/

namespace OutageLedger.Sample

def alert (number : String) : Alert :=
  ⟨number, .pagerDuty, "core", "disk full", "", "high", .epoch, none, none⟩

/-- A service that gives the same answer whenever it is asked for a page, and knows every alert. -/
def service (answer : Except ProviderError AlertPage) : Provider Unit where
  source := .pagerDuty
  answer
    | .page _, _ => (answer, [], ())
    | .alert id, _ => (.ok (alert id), [], ())
    | .teams, _ => (.ok [], [], ())

def id (n : Nat) : Uuid :=
  ⟨n % 0x100000000000000000000000000000000, Nat.mod_lt n (by decide)⟩

def stage (answer : Except ProviderError AlertPage) (faults : List PlannedFault) : Stage Unit :=
  ⟨service answer, faults, .epoch, id⟩

/-- Before anything is done. -/
def start (s : Store) : Rehearsal Unit :=
  ⟨(), s, 0, []⟩

def request : FetchRequest :=
  ⟨.epoch, none, [], 0, 0⟩

/-- A last page with three alerts, two of which are the same. -/
def page : AlertPage :=
  ⟨[alert "A", alert "B", alert "A"], false, 3⟩

/-- 10000-01-01T00:00:00Z, which the store does not read back. -/
def late : Instant :=
  (Instant.ofParts? 253402300800 0).getD .epoch

/-- A store with a record of one of the alerts, which does not read back. -/
def store : Store :=
  ((Store.empty.perform (.createOutage ((alert "B").openOutage (id 100) late))).2.perform
    (.createAlert ⟨id 101, id 100, alert "B", late⟩)).2

theorem reachable_store : store.Reachable :=
  .perform (.perform .empty _) _

/-- The store after a run over the page. -/
def laterStore : Store :=
  ⟨store.outages ++ [((alert "A").openOutage (id 0) .epoch).row],
    store.alerts ++ [AlertRecord.row ⟨id 1, id 0, alert "A", .epoch⟩]⟩

theorem pageAnswers_turns {α : Type} (answer : Except ProviderError AlertPage)
    (faults : List PlannedFault) (p : Importer α) (r : Rehearsal Unit) :
    ∀ x ∈ pageAnswers (p.turns (stage answer faults).handler r), x = answer := by
  induction p generalizing r with
  | done a => exact fun _ h => absurd h List.not_mem_nil
  | call c next ih =>
    cases c with
    | ask q =>
      cases q with
      | page r' =>
        intro x hx
        rcases List.mem_cons.mp hx with rfl | hx
        · rfl
        · exact ih _ _ x hx
      | _ => exact ih _ _
    | _ => exact ih _ _

end OutageLedger.Sample
