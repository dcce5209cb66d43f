import OutageLedger.Proofs.Import.Effect
import OutageLedger.Proofs.Import.Rehearsal
import OutageLedger.Proofs.Store.History

/-
  Adding an alert to any store. A call is only held to its effect here (`Store.Obeys`): it may fail for any
  reason, which then has no effect, and the rows that are there may be any. `Outcome` lists what adding an alert
  may come to, and `Creating.outcome` says that there is nothing else if the ids drawn are not in use. Main
  statement: `creation_all_or_nothing`, also on which calls are made.
-/

namespace OutageLedger

namespace Store

/-- What a call leaves behind if it succeeds. -/
def effect (s : Store) : StoreCall → Store
  | .find _ => s
  | .createOutage o => s.grown [o] []
  | .createAlert r => s.grown [] [r]
  | .deleteOutage id => s.deleteOutage id

/-- A call that succeeds has its effect, and a call that fails has none. What is returned, and whether the
call succeeds, may be anything. -/
def Obeys : Rule :=
  fun s c r s' => s' = match r with
    | .ok _ => s.effect c
    | .error _ => s

theorem obeys_of_performs {s s' : Store} {c : StoreCall} {r : Except StoreError c.Answer}
    (h : Performs s c r s') : Obeys s c r s' := by
  obtain rfl : (s.perform c).1 = r := congrArg Prod.fst h
  obtain rfl : (s.perform c).2 = s' := congrArg Prod.snd h
  unfold Obeys
  cases hr : (s.perform c).1 with
  | error e => exact s.perform_of_error c hr
  | ok answer =>
    cases c with
    | find key => rfl
    | deleteOutage id => rfl
    | createOutage o =>
      simp only [perform, createOutage_eq] at hr ⊢
      split at hr
      · cases hr
      · rename_i hnew
        rw [if_neg hnew, effect, grown, List.map_nil, List.append_nil]
        rfl
    | createAlert a =>
      simp only [perform, createAlert_eq] at hr ⊢
      split at hr
      · cases hr
      · split at hr
        · cases hr
        · split at hr
          · rename_i hkey hid houtage
            rw [if_neg hkey, if_neg hid, if_pos houtage, effect, grown, List.map_nil, List.append_nil]
            rfl
          · cases hr

theorem obeys_of_mayRefuse {s s' : Store} {c : StoreCall} {r : Except StoreError c.Answer}
    (h : MayRefuse s c r s') : Obeys s c r s' := by
  rcases h with h | ⟨⟨e, rfl⟩, rfl⟩
  · exact obeys_of_performs h
  · rfl

/-- Ids that no outage bears are not those of outages that records are attached to. -/
theorem Intact.unused {s : Store} {ids : List Uuid} (h : s.Intact) (hfresh : s.Fresh ids) : s.Unused ids := by
  refine ⟨hfresh, fun u hu => ?_⟩
  rw [Bool.eq_false_iff]
  intro hreferent
  obtain ⟨row, hrow, hcell⟩ := List.any_eq_true.mp hreferent
  have hmem : .uuid u ∈ s.referents := eq_of_beq hcell ▸ List.mem_map_of_mem hrow
  obtain ⟨row', hrow', heq⟩ := List.mem_map.mp (h.attached _ hmem)
  have houtage : s.hasOutage u = true := List.any_eq_true.mpr ⟨row', hrow', beq_iff_eq.mpr heq⟩
  rw [hfresh.no_outage u hu] at houtage
  cases houtage

end Store

namespace ImportTurn

/-- The outage that is to be added, with the reply. -/
def opening? : ImportTurn → Option (Outage × Except StoreError Unit)
  | ⟨.store (.createOutage o), r⟩ => some (o, r)
  | _ => none

/-- The record that is to be added, with the reply. -/
def attachment? : ImportTurn → Option (AlertRecord × Except StoreError Unit)
  | ⟨.store (.createAlert x), r⟩ => some (x, r)
  | _ => none

/-- The outage that is to be deleted, with the reply. -/
def deletion? : ImportTurn → Option (Uuid × Except StoreError Bool)
  | ⟨.store (.deleteOutage id), r⟩ => some (id, r)
  | _ => none

end ImportTurn

/-- The outages that were to be added, in order. -/
def openings (ts : List ImportTurn) : List (Outage × Except StoreError Unit) :=
  ts.filterMap ImportTurn.opening?

/-- The records that were to be added, in order. -/
def attachments (ts : List ImportTurn) : List (AlertRecord × Except StoreError Unit) :=
  ts.filterMap ImportTurn.attachment?

/-- The outages that were to be deleted, in order. -/
def deletions (ts : List ImportTurn) : List (Uuid × Except StoreError Bool) :=
  ts.filterMap ImportTurn.deletion?

theorem store_calls_of_quiet {ts : List ImportTurn} (h : ∀ t ∈ ts, t.isQuiet = true) :
    openings ts = [] ∧ attachments ts = [] ∧ deletions ts = [] := by
  refine ⟨?_, ?_, ?_⟩
  all_goals
    refine List.filterMap_eq_nil_iff.mpr fun t ht => ?_
    obtain ⟨c, r⟩ := t
    cases c with
    | store c => exact absurd (h _ ht) (by simp [ImportTurn.isQuiet])
    | _ => rfl

namespace Importer

open Store

variable {stamp : Stamp} {a : Alert} {target : Option Uuid} {ts : List ImportTurn}
  {res : Except IngestError Created} {s s' : Store}

/-- What adding an alert may do to a store, by its result. The ids are those drawn for it. -/
inductive Outcome (stamp : Stamp) (a : Alert) (s : Store) :
    Option Uuid → List Uuid → Except IngestError Created → Store → Prop
  /-- The alert is in the outage asked for. -/
  | joined (target id : Uuid) (time : Instant) :
    Outcome stamp a s (some target) [id] (.ok ⟨⟨id, target, a, time⟩, false⟩)
      (s.grown [] [⟨id, target, a, time⟩])
  /-- The alert is in an outage of its own. -/
  | opened (outageId id : Uuid) (time : Instant) :
    Outcome stamp a s none [outageId, id] (.ok ⟨⟨id, outageId, a, time⟩, true⟩)
      (s.grown [a.openOutage outageId (stamp.time a time)] [⟨id, outageId, a, time⟩])
  | undone {target : Option Uuid} (ids : List Uuid) (e : IngestError) (h : e.stranded? = none) :
    Outcome stamp a s target ids (.error e) s
  /-- An outage without a record is left behind. -/
  | stranded (outageId id : Uuid) (time : Instant) (e : IngestError)
      (h : e.stranded? = some outageId) :
    Outcome stamp a s none [outageId, id] (.error e)
      (s.grown [a.openOutage outageId (stamp.time a time)] [])

/-- An alert is added to an outage that was there, or nothing is. -/
theorem Attaching.outcome_given {target : Uuid} {time : Instant}
    (h : Attaching a target false time ts res) (hs : Serves Obeys s ts s') :
    Outcome stamp a s (some target) (drawnIds ts) res s' := by
  obtain ⟨id, reply, rfl, rfl⟩ := h.exists_reply
  obtain ⟨s1, hcall, rfl⟩ := hs
  match reply, hcall with
  | .ok (), hcall =>
    obtain rfl : s' = s.grown [] [⟨id, target, a, time⟩] := hcall
    exact .joined target id time
  | .error e, hcall =>
    obtain rfl : s' = s := hcall
    exact .undone _ _ (stranded?_refusal a e)

/-- An alert is added to the outage just opened for it, or the outage is deleted again before a record is
attached to it, unless that fails too. -/
theorem Attaching.outcome_opened {u : Uuid} {time : Instant} (h : Attaching a u true time ts res)
    (hs : Serves Obeys (s.grown [a.openOutage u (stamp.time a time)] []) ts s')
    (houtage : s.hasOutage u = false) (hreferent : hasCell s.alerts 1 (.uuid u) = false) :
    Outcome stamp a s none (u :: drawnIds ts) res s' := by
  cases h with
  | added id =>
    obtain ⟨s1, hcall, rfl⟩ := hs
    have hgrown : s' = s.grown [a.openOutage u (stamp.time a time)] [⟨id, u, a, time⟩] :=
      hcall.trans grown_grown
    rw [hgrown]
    exact .opened u id time
  | refused id e h => cases h
  | takenBack id e b =>
    obtain ⟨s1, hcall, s2, hdelete, hnotes⟩ := hs
    obtain rfl : s1 = s.grown [a.openOutage u (stamp.time a time)] [] := hcall
    rw [serves_quiet_iff (quiet_removalNotes a u _)] at hnotes
    have hback : (s.grown [a.openOutage u (stamp.time a time)] []).deleteOutage u = s :=
      deleteOutage_grown houtage hreferent
    have hsame : s' = s := hnotes.trans (hdelete.trans hback)
    rw [hsame]
    exact .undone _ _ (stranded?_refusal a e)
  | stranded id e cleanup =>
    have hquiet := quiet_removalNotes a u (.error cleanup)
    obtain ⟨s1, hcall, s2, hdelete, hnotes⟩ := hs
    rw [serves_quiet_iff hquiet] at hnotes
    have hleft : s' = s.grown [a.openOutage u (stamp.time a time)] [] :=
      hnotes.trans (hdelete.trans hcall)
    show Outcome stamp a s none (u :: id :: drawnIds (removalNotes a u (.error cleanup))) _ _
    rw [hleft, drawnIds_of_quiet hquiet]
    exact .stranded u id time _ rfl

/-- Whatever fails, adding an alert has one of the outcomes, if the ids drawn are not in use. -/
theorem Creating.outcome (h : Creating stamp a target ts res) (hs : Serves Obeys s ts s')
    (hunused : s.Unused (drawnIds ts)) : Outcome stamp a s target (drawnIds ts) res s' := by
  cases h with
  | given target time h => exact h.outcome_given hs
  | unopened u time e =>
    obtain ⟨s1, hcall, rfl⟩ := hs
    obtain rfl : s' = s := hcall
    exact .undone _ _ rfl
  | opened u time h =>
    obtain ⟨s1, hopen, hrest⟩ := hs
    obtain rfl : s1 = s.grown [a.openOutage u (stamp.time a time)] [] := hopen
    exact h.outcome_opened hrest (hunused.no_outage u List.mem_cons_self)
      (hunused.no_referent u List.mem_cons_self)

/-! ## Calls to the store -/

/-- One record is to be added, and only an outage of this call is deleted when that fails. -/
theorem Attaching.calls {outageId : Uuid} {newOutage : Bool} {time : Instant}
    (h : Attaching a outageId newOutage time ts res) :
    openings ts = [] ∧ ∃ x r, attachments ts = [(x, r)] ∧
      ((r = .ok () ∧ deletions ts = [] ∧ ∃ c, res = .ok c) ∨
        (∃ e, r = .error e ∧ newOutage = false ∧ deletions ts = [] ∧ res = .error (refusal a e)) ∨
        (∃ e b, r = .error e ∧ newOutage = true ∧ deletions ts = [(outageId, .ok b)] ∧
          res = .error (refusal a e)) ∨
        ∃ e cleanup, r = .error e ∧ newOutage = true ∧ deletions ts = [(outageId, .error cleanup)] ∧
          res = .error (.compensation a.externalId outageId e cleanup)) := by
  cases h with
  | added id => exact ⟨rfl, _, _, rfl, Or.inl ⟨rfl, rfl, _, rfl⟩⟩
  | refused id e h => exact ⟨rfl, _, _, rfl, Or.inr (Or.inl ⟨e, rfl, h, rfl, rfl⟩)⟩
  | takenBack id e b h =>
    obtain ⟨hopenings, hattachments, hdeletions⟩ :=
      store_calls_of_quiet (quiet_removalNotes a outageId (.ok b))
    refine ⟨hopenings, _, _, congrArg (_ :: ·) hattachments, Or.inr (Or.inr (Or.inl ?_))⟩
    exact ⟨e, b, rfl, h, congrArg (_ :: ·) hdeletions, rfl⟩
  | stranded id e cleanup h =>
    obtain ⟨hopenings, hattachments, hdeletions⟩ :=
      store_calls_of_quiet (quiet_removalNotes a outageId (.error cleanup))
    refine ⟨hopenings, _, _, congrArg (_ :: ·) hattachments, Or.inr (Or.inr (Or.inr ?_))⟩
    exact ⟨e, cleanup, rfl, h, congrArg (_ :: ·) hdeletions, rfl⟩

/-- An outage is deleted exactly if it was opened and the record was then refused. -/
theorem Creating.deletes_iff (h : Creating stamp a target ts res) :
    (deletions ts).length ≤ 1 ∧ ∀ id,
      (∃ r, (id, r) ∈ deletions ts) ↔
        target = none ∧ (∃ o, o.id = id ∧ (o, .ok ()) ∈ openings ts) ∧
          ∃ x e, (x, .error e) ∈ attachments ts := by
  cases h with
  | unopened u time e =>
    refine ⟨Nat.zero_le 1, fun id => iff_of_false ?_ ?_⟩
    · rintro ⟨r, hr⟩
      cases hr
    · rintro ⟨-, -, x, e, hx⟩
      cases hx
  | @given target time ts res h =>
    obtain ⟨-, x, r, -, hcases⟩ := h.calls
    have hnone : deletions ts = [] := by
      rcases hcases with ⟨-, hnone, -⟩ | ⟨e, -, -, hnone, -⟩ | ⟨e, b, -, hnew, -⟩ | ⟨e, c, -, hnew, -⟩
      · exact hnone
      · exact hnone
      · cases hnew
      · cases hnew
    show (deletions ts).length ≤ 1 ∧ ∀ id, (∃ r, (id, r) ∈ deletions ts) ↔ _
    rw [hnone]
    refine ⟨Nat.zero_le 1, fun id => iff_of_false ?_ ?_⟩
    · rintro ⟨r, hr⟩
      cases hr
    · rintro ⟨htarget, -⟩
      cases htarget
  | @opened u time ts res h =>
    obtain ⟨hopenings, x, r, hattachments, hcases⟩ := h.calls
    have hid : (a.openOutage u (stamp.time a time)).id = u := rfl
    show (deletions ts).length ≤ 1 ∧ ∀ id, (∃ r, (id, r) ∈ deletions ts) ↔
      none = none ∧ (∃ o : Outage, o.id = id ∧
        (o, Except.ok ()) ∈ (a.openOutage u (stamp.time a time), Except.ok ()) :: openings ts) ∧
          ∃ x e, (x, Except.error e) ∈ attachments ts
    rw [hopenings, hattachments]
    rcases hcases with ⟨rfl, hnone, -⟩ | ⟨e, -, hnew, -⟩ | ⟨e, b, rfl, -, hone, -⟩ |
      ⟨e, c, rfl, -, hone, -⟩
    · rw [hnone]
      simp
    · cases hnew
    · rw [hone]
      simp [hid, eq_comm]
    · rw [hone]
      simp [hid, eq_comm]

theorem refusal_eq_duplicate_iff {e : StoreError} {key : AlertKey} :
    refusal a e = .duplicate key ↔ e = .duplicate key := by
  cases e <;> simp [refusal]

theorem Attaching.duplicate_iff {outageId : Uuid} {newOutage : Bool} {time : Instant}
    (h : Attaching a outageId newOutage time ts res) (key : AlertKey) :
    res = .error (.duplicate key) ↔
      (∃ x, (x, .error (.duplicate key)) ∈ attachments ts) ∧ ∀ id e, (id, .error e) ∉ deletions ts := by
  obtain ⟨-, x, r, hattachments, hcases⟩ := h.calls
  rw [hattachments]
  rcases hcases with ⟨rfl, -, c, rfl⟩ | ⟨e, rfl, -, hnone, rfl⟩ | ⟨e, b, rfl, -, hone, rfl⟩ |
    ⟨e, c, rfl, -, hone, rfl⟩
  · simp
  · rw [hnone]
    simp [refusal_eq_duplicate_iff, eq_comm]
  · rw [hone]
    simp [refusal_eq_duplicate_iff, eq_comm]
  · rw [hone]
    simp

/-- An alert is a duplicate if the store says so of its record, and what was opened for it is gone. -/
theorem Creating.duplicate_iff (h : Creating stamp a target ts res) (key : AlertKey) :
    res = .error (.duplicate key) ↔
      (∃ x, (x, .error (.duplicate key)) ∈ attachments ts) ∧ ∀ id e, (id, .error e) ∉ deletions ts := by
  cases h with
  | unopened u time e => simp [attachments, ImportTurn.attachment?]
  | given target time h =>
    have hiff := h.duplicate_iff key
    exact hiff
  | opened u time h =>
    have hiff := h.duplicate_iff key
    exact hiff

end Importer

open Importer Store

/-- Adding an alert is all or nothing. On a store with intact tables, where each call has the effect that it
reports, for any reason it may fail, and the ids drawn are not in use: if the alert is added, so is nothing
else but an outage of its own if none was asked for; if not, the store is as before, or one outage more is in
it, which the error names and no record is attached to. An outage is deleted exactly if it was opened and the
record was then refused. The alert is a duplicate exactly if the store says so and no deletion fails. -/
theorem creation_all_or_nothing {stamp : Stamp} {a : Alert} {target : Option Uuid}
    (run : Program.Run (create stamp a target)) {s s' : Store} (hintact : s.Intact)
    (hfresh : s.Fresh (drawnIds run.turns)) (hs : Serves Obeys s run.turns s') :
    (∀ c, run.result = .ok c →
      c.record.alert = a ∧ c.newOutage = target.isNone ∧
        (∀ u, target = some u → c.record.outageId = u ∧ s' = s.grown [] [c.record]) ∧
        (target = none → s' =
          s.grown [a.openOutage c.record.outageId (stamp.time a c.record.createdAt)] [c.record])) ∧
    (∀ e, run.result = .error e →
      match e.stranded? with
      | none => s' = s
      | some u =>
        target = none ∧ (∃ time, s' = s.grown [a.openOutage u time] []) ∧
          hasCell s'.alerts 1 (.uuid u) = false) ∧
    (deletions run.turns).length ≤ 1 ∧
    (∀ id, (∃ r, (id, r) ∈ deletions run.turns) ↔
      target = none ∧ (∃ o, o.id = id ∧ (o, .ok ()) ∈ openings run.turns) ∧
        ∃ x e, (x, .error e) ∈ attachments run.turns) ∧
    ∀ key, run.result = .error (.duplicate key) ↔
      (∃ x, (x, .error (.duplicate key)) ∈ attachments run.turns) ∧
        ∀ id e, (id, .error e) ∉ deletions run.turns := by
  have hcreating := ends_create run.ends
  have hunused := hintact.unused hfresh
  have houtcome := hcreating.outcome hs hunused
  obtain ⟨honce, hdeletes⟩ := hcreating.deletes_iff
  refine ⟨fun c hc => ?_, fun e he => ?_, honce, hdeletes, hcreating.duplicate_iff⟩
  · rw [hc] at houtcome
    generalize drawnIds run.turns = ids at houtcome
    cases houtcome with
    | joined target id time =>
      refine ⟨rfl, rfl, fun u hu => ⟨Option.some.inj hu, rfl⟩, fun h => ?_⟩
      cases h
    | opened u id time =>
      refine ⟨rfl, rfl, fun u hu => ?_, fun _ => rfl⟩
      cases hu
  · rw [he] at houtcome
    generalize hids : drawnIds run.turns = ids at houtcome hunused
    cases houtcome with
    | undone ids e h =>
      rw [h]
    | stranded u id time e h =>
      rw [h]
      refine ⟨rfl, ⟨_, rfl⟩, ?_⟩
      rw [hasReferent_grown]
      exact (Bool.or_false _).trans (hunused.no_referent u List.mem_cons_self)

namespace Sample

/-- A stage where no alert can be added. -/
def fullStage : Stage Unit :=
  stage (.ok page) [⟨.createAlert, none, .backend "full"⟩]

def backedOut : Program.Run (create .trigger (alert "A") none) :=
  Program.runOf fullStage.handler _ (start store)

theorem serves_backedOut : ∃ s', Serves Obeys store backedOut.turns s' := by
  have hserves := Stage.serves_turns_of_backend (s := fullStage) (fun f hf => ?_)
    (create .trigger (alert "A") none) (start store)
  · exact ⟨_, hserves.mono fun _ _ _ _ h => obeys_of_mayRefuse h⟩
  · exact ⟨_, by rw [List.mem_singleton.mp hf]⟩

theorem intact_store : store.Intact := by
  obtain ⟨l, hl⟩ := reachable_store.exists_ledger
  rw [hl]
  exact l.intact_store

theorem fresh_backedOut : store.Fresh (drawnIds backedOut.turns) := by
  have hids : drawnIds backedOut.turns = [id 0, id 1] := by
    decide +kernel
  rw [hids]
  constructor <;> decide +kernel

end Sample

/-- The alert is refused, and the outage opened for it is gone. -/
theorem creation_all_or_nothing_of_refusal :
    ∃ s', Serves Obeys Sample.store Sample.backedOut.turns s' ∧ Sample.store.Intact ∧
      Sample.store.Fresh (drawnIds Sample.backedOut.turns) ∧
      (∃ e, Sample.backedOut.result = .error e) ∧
      (∃ r, (Sample.id 0, r) ∈ deletions Sample.backedOut.turns) ∧ s' = Sample.store := by
  obtain ⟨s', hs⟩ := Sample.serves_backedOut
  have hresult : Sample.backedOut.result =
      .error (.createAlert "A" (.backend (.other "full"))) := rfl
  obtain ⟨-, herror, -, hdeletes, -⟩ :=
    creation_all_or_nothing Sample.backedOut Sample.intact_store Sample.fresh_backedOut hs
  refine ⟨s', hs, Sample.intact_store, Sample.fresh_backedOut, ⟨_, hresult⟩, ?_, herror _ hresult⟩
  exact (hdeletes (Sample.id 0)).mpr ⟨rfl, ⟨_, rfl, List.mem_cons_self⟩, _, _, List.mem_cons_self⟩

end OutageLedger
