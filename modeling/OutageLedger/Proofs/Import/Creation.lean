import OutageLedger.Import.Live
import OutageLedger.Proofs.Import.Turns

/-
  The turns in which an alert is taken in. `Attaching` and `Creating` list the courses that adding an
  alert can take whatever the store replies; `ends_attach` and `ends_create` say that there are no others, and
  `Attaching.ends` and `Creating.ends` that each of them is one.
-/

namespace OutageLedger

/-- The outage that was left behind without a record. -/
def IngestError.stranded? : IngestError → Option Uuid
  | compensation _ outageId _ _ => some outageId
  | _ => none

namespace Importer

variable {a : Alert} {ts : List ImportTurn}

/-- What is noted of an attempt to remove the outage opened for an alert. -/
def removalNotes (a : Alert) (outageId : Uuid) : Except StoreError Bool → List ImportTurn
  | .ok true => [⟨.note (.rolledBack outageId), ()⟩]
  | .ok false => [⟨.note (.noSuchOutage outageId), ()⟩, ⟨.note (.rolledBack outageId), ()⟩]
  | .error cleanup => [⟨.note (.cleanupFailed a.externalId outageId cleanup), ()⟩]

theorem quiet_removalNotes (a : Alert) (outageId : Uuid) (reply : Except StoreError Bool) :
    ∀ t ∈ removalNotes a outageId reply, t.isQuiet = true := by
  cases reply with
  | ok b => cases b <;> simp [removalNotes, ImportTurn.isQuiet]
  | error cleanup => simp [removalNotes, ImportTurn.isQuiet]

/-- The turns that add an alert to an outage, and the result. -/
inductive Attaching (a : Alert) (outageId : Uuid) (newOutage : Bool) (time : Instant) :
    List ImportTurn → Except IngestError Created → Prop
  | added (u : Uuid) :
    Attaching a outageId newOutage time
      [⟨.newId, u⟩, ⟨.store (.createAlert ⟨u, outageId, a, time⟩), .ok ()⟩]
      (.ok ⟨⟨u, outageId, a, time⟩, newOutage⟩)
  /-- The store refuses the alert, and the outage is not that of this call. -/
  | refused (u : Uuid) (e : StoreError) (h : newOutage = false) :
    Attaching a outageId newOutage time
      [⟨.newId, u⟩, ⟨.store (.createAlert ⟨u, outageId, a, time⟩), .error e⟩]
      (.error (refusal a e))
  /-- The store refuses the alert, and the outage opened for it is removed again. -/
  | takenBack (u : Uuid) (e : StoreError) (b : Bool) (h : newOutage = true) :
    Attaching a outageId newOutage time
      (⟨.newId, u⟩ :: ⟨.store (.createAlert ⟨u, outageId, a, time⟩), .error e⟩ ::
        ⟨.store (.deleteOutage outageId), .ok b⟩ :: removalNotes a outageId (.ok b))
      (.error (refusal a e))
  /-- The store refuses the alert, and the outage opened for it cannot be removed. -/
  | stranded (u : Uuid) (e cleanup : StoreError) (h : newOutage = true) :
    Attaching a outageId newOutage time
      (⟨.newId, u⟩ :: ⟨.store (.createAlert ⟨u, outageId, a, time⟩), .error e⟩ ::
        ⟨.store (.deleteOutage outageId), .error cleanup⟩ :: removalNotes a outageId (.error cleanup))
      (.error (.compensation a.externalId outageId e cleanup))

/-- The turns that add an alert to an outage of its own or to a given one, and the result. -/
inductive Creating (stamp : Stamp) (a : Alert) :
    Option Uuid → List ImportTurn → Except IngestError Created → Prop
  | given (target : Uuid) (time : Instant) {ts : List ImportTurn} {res : Except IngestError Created}
      (h : Attaching a target false time ts res) :
    Creating stamp a (some target) (⟨.now, time⟩ :: ts) res
  | opened (u : Uuid) (time : Instant) {ts : List ImportTurn} {res : Except IngestError Created}
      (h : Attaching a u true time ts res) :
    Creating stamp a none
      (⟨.now, time⟩ :: ⟨.newId, u⟩ ::
        ⟨.store (.createOutage (a.openOutage u (stamp.time a time))), .ok ()⟩ :: ts) res
  | unopened (u : Uuid) (time : Instant) (e : StoreError) :
    Creating stamp a none
      [⟨.now, time⟩, ⟨.newId, u⟩,
        ⟨.store (.createOutage (a.openOutage u (stamp.time a time))), .error e⟩]
      (.error (.createOutage a.externalId e))

/-- For an outage that is not of this call, the alert is added by one call, and the reply decides. -/
theorem Attaching.exists_reply {outageId : Uuid} {time : Instant} {res : Except IngestError Created}
    (h : Attaching a outageId false time ts res) :
    ∃ u reply, ts = [⟨.newId, u⟩, ⟨.store (.createAlert ⟨u, outageId, a, time⟩), reply⟩] ∧
      res = match reply with
        | .ok () => .ok ⟨⟨u, outageId, a, time⟩, false⟩
        | .error e => .error (refusal a e) := by
  cases h with
  | added u => exact ⟨u, .ok (), rfl, rfl⟩
  | refused u e => exact ⟨u, .error e, rfl, rfl⟩
  | takenBack u e b h => cases h
  | stranded u e cleanup h => cases h

/-! ## There are no other courses -/

theorem ends_takeBack {outageId : Uuid} {e : StoreError} {res : IngestError}
    (h : (takeBack a outageId e).Ends ts res) :
    ∃ reply, ts = ⟨.store (.deleteOutage outageId), reply⟩ :: removalNotes a outageId reply ∧
      ((∃ b, reply = .ok b ∧ res = refusal a e) ∨
        ∃ cleanup, reply = .error cleanup ∧ res = .compensation a.externalId outageId e cleanup) := by
  obtain ⟨r, rest, rfl, h1⟩ := Program.ends_call_iff.mp h
  match r, h1 with
  | .ok true, h1 =>
    obtain ⟨_, notes, rfl, h2⟩ := Program.ends_call_iff.mp h1
    obtain ⟨rfl, rfl⟩ := Program.ends_done_iff.mp h2
    exact ⟨.ok true, rfl, Or.inl ⟨true, rfl, rfl⟩⟩
  | .ok false, h1 =>
    obtain ⟨_, notes, rfl, h2⟩ := Program.ends_call_iff.mp h1
    obtain ⟨_, notes, rfl, h3⟩ := Program.ends_call_iff.mp h2
    obtain ⟨rfl, rfl⟩ := Program.ends_done_iff.mp h3
    exact ⟨.ok false, rfl, Or.inl ⟨false, rfl, rfl⟩⟩
  | .error cleanup, h1 =>
    obtain ⟨_, notes, rfl, h2⟩ := Program.ends_call_iff.mp h1
    obtain ⟨rfl, rfl⟩ := Program.ends_done_iff.mp h2
    exact ⟨.error cleanup, rfl, Or.inr ⟨cleanup, rfl, rfl⟩⟩

theorem ends_attach {outageId : Uuid} {newOutage : Bool} {time : Instant}
    {res : Except IngestError Created} (h : (attach a outageId newOutage time).Ends ts res) :
    Attaching a outageId newOutage time ts res := by
  obtain ⟨u, rest, rfl, h1⟩ := Program.ends_call_iff.mp h
  obtain ⟨r, rest, rfl, h2⟩ := Program.ends_call_iff.mp h1
  match r, h2 with
  | .ok (), h2 =>
    obtain ⟨rfl, rfl⟩ := Program.ends_done_iff.mp h2
    exact .added u
  | .error e, h2 =>
    cases newOutage with
    | false =>
      obtain ⟨rfl, rfl⟩ := Program.ends_done_iff.mp h2
      exact .refused u e rfl
    | true =>
      obtain ⟨us, vs, failed, rfl, hback, hdone⟩ :=
        (Program.ends_bind_iff (p := takeBack a outageId e)).mp h2
      obtain ⟨rfl, rfl⟩ := Program.ends_done_iff.mp hdone
      rw [List.append_nil]
      obtain ⟨reply, rfl, ⟨b, rfl, rfl⟩ | ⟨cleanup, rfl, rfl⟩⟩ := ends_takeBack hback
      · exact .takenBack u e b rfl
      · exact .stranded u e cleanup rfl

theorem ends_create {stamp : Stamp} {target : Option Uuid} {res : Except IngestError Created}
    (h : (create stamp a target).Ends ts res) : Creating stamp a target ts res := by
  obtain ⟨time, rest, rfl, h1⟩ := Program.ends_call_iff.mp h
  cases target with
  | some target => exact .given target time (ends_attach h1)
  | none =>
    obtain ⟨u, rest, rfl, h2⟩ := Program.ends_call_iff.mp h1
    obtain ⟨r, rest, rfl, h3⟩ := Program.ends_call_iff.mp h2
    match r, h3 with
    | .ok (), h3 => exact .opened u time (ends_attach h3)
    | .error e, h3 =>
      obtain ⟨rfl, rfl⟩ := Program.ends_done_iff.mp h3
      exact .unopened u time e

/-! ## Each of them is one -/

theorem ends_takeBack_ok (a : Alert) (outageId : Uuid) (e : StoreError) (b : Bool) :
    (takeBack a outageId e).Ends
      (⟨.store (.deleteOutage outageId), .ok b⟩ :: removalNotes a outageId (.ok b)) (refusal a e) := by
  refine .turn _ _ _ ?_
  cases b with
  | true => exact .turn _ _ _ (.stay _)
  | false => exact .turn _ _ _ (.turn _ _ _ (.stay _))

theorem ends_takeBack_error (a : Alert) (outageId : Uuid) (e cleanup : StoreError) :
    (takeBack a outageId e).Ends
      (⟨.store (.deleteOutage outageId), .error cleanup⟩ :: removalNotes a outageId (.error cleanup))
      (.compensation a.externalId outageId e cleanup) :=
  .turn _ _ _ (.turn _ _ _ (.stay _))

theorem Attaching.ends {outageId : Uuid} {newOutage : Bool} {time : Instant}
    {res : Except IngestError Created} (h : Attaching a outageId newOutage time ts res) :
    (attach a outageId newOutage time).Ends ts res := by
  cases h with
  | added u => exact .turn _ _ _ (.turn _ _ _ (.stay _))
  | refused u e h =>
    subst h
    exact .turn _ _ _ (.turn _ _ _ (.stay _))
  | takenBack u e b h =>
    subst h
    refine .turn _ _ _ (.turn _ _ _ ?_)
    exact (Program.ends_bind_iff (p := takeBack a outageId e)).mpr
      ⟨_, [], _, (List.append_nil _).symm, ends_takeBack_ok a outageId e b, .stay _⟩
  | stranded u e cleanup h =>
    subst h
    refine .turn _ _ _ (.turn _ _ _ ?_)
    exact (Program.ends_bind_iff (p := takeBack a outageId e)).mpr
      ⟨_, [], _, (List.append_nil _).symm, ends_takeBack_error a outageId e cleanup, .stay _⟩

theorem Creating.ends {stamp : Stamp} {target : Option Uuid} {res : Except IngestError Created}
    (h : Creating stamp a target ts res) : (create stamp a target).Ends ts res := by
  cases h with
  | given target time h => exact .turn _ _ _ h.ends
  | opened u time h => exact .turn _ _ _ (.turn _ _ _ (.turn _ _ _ h.ends))
  | unopened u time e => exact .turn _ _ _ (.turn _ _ _ (.turn _ _ _ (.stay _)))

end Importer

end OutageLedger
