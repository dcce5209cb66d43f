import OutageLedger.Proofs.Import.Effect
import OutageLedger.Proofs.Import.Rehearsal
import OutageLedger.Proofs.Import.Walk

/-
  Imports one after the other, on a store that may refuse any call. Whatever they meet, they only add
  rows, and an outage without a record is left behind only if an error says so (`LeavesOnly`), so that
  every store which imports make of an empty one is in order: `imports_keep_order`.
-/

namespace OutageLedger

/-- The error with which an alert of a page failed. -/
def ImportTurn.failure? : ImportTurn → Option IngestError
  | ⟨.note (.notImported _ e), _⟩ => some e
  | _ => none

/-- The errors with which alerts of pages failed. -/
def failures (ts : List ImportTurn) : List IngestError :=
  ts.filterMap ImportTurn.failure?

/-- The error in the result of an import of a single alert. -/
def ingestErrors : Except LiveError Importer.LiveImport → List IngestError
  | .error (.ingest e) => [e]
  | _ => []

/-- The errors with which adding an alert failed: those noted of the alerts of pages, or the one that is
returned where a single alert is imported. -/
def Operation.errors : Operation → List IngestError
  | ⟨.backfill .., run⟩ => failures run.turns
  | ⟨.live .., run⟩ => ingestErrors run.result

/-- The status goes with the time of resolution. -/
def Outage.isInStep (o : Outage) : Prop :=
  (o.status = .resolved ↔ o.resolvedAt.isSome = true) ∧
    (o.status = .opened ↔ o.resolvedAt.isSome = false)

namespace Ledger

/-- The second ledger is the first with rows added. The status of each outage added goes with its time
of resolution, and it has a record unless it is one of `left`. -/
def Extends (l m : Ledger) (left : List Uuid) : Prop :=
  ∃ os rs, l.Grows m os rs ∧
    ∀ o ∈ os, o.isInStep ∧ (o.id ∈ m.referents ∨ o.id ∈ left)

variable {l m n : Ledger} {left left' : List Uuid}

theorem Extends.refl (l : Ledger) : l.Extends l [] :=
  ⟨[], [], .refl l, fun _ ho => absurd ho List.not_mem_nil⟩

theorem Extends.mono (h : l.Extends m left) (hle : left ⊆ left') : l.Extends m left' := by
  obtain ⟨os, rs, hgrows, hos⟩ := h
  exact ⟨os, rs, hgrows, fun o ho => ⟨(hos o ho).1, (hos o ho).2.imp_right fun h => hle h⟩⟩

theorem Extends.trans (h : l.Extends m left) (h' : m.Extends n left') :
    l.Extends n (left ++ left') := by
  obtain ⟨os, rs, hgrows, hos⟩ := h
  obtain ⟨os', rs', hgrows', hos'⟩ := h'
  refine ⟨_, _, hgrows.trans hgrows', fun o ho => ?_⟩
  rcases List.mem_append.mp ho with ho | ho
  · obtain ⟨hstep, hrecord | hleft⟩ := hos o ho
    · refine ⟨hstep, Or.inl ?_⟩
      rw [hgrows'.referents]
      exact List.mem_append_left _ hrecord
    · exact ⟨hstep, Or.inr (List.mem_append_left _ hleft)⟩
  · obtain ⟨hstep, hown⟩ := hos' o ho
    exact ⟨hstep, hown.imp_right fun h => List.mem_append_right _ h⟩

end Ledger

open Store Importer

/-- On every ledger, the turns only add rows, and no outage is left without a record but these. -/
def LeavesOnly (ts : List ImportTurn) (left : List Uuid) : Prop :=
  ∀ (l : Ledger) (s' : Store), Serves MayRefuse l.store ts s' →
    ∃ m : Ledger, s' = m.store ∧ l.Extends m left

namespace LeavesOnly

variable {ts us : List ImportTurn} {left left' : List Uuid}

theorem mono (h : LeavesOnly ts left) (hle : left ⊆ left') : LeavesOnly ts left' := by
  intro l s' hs
  obtain ⟨m, hm, hext⟩ := h l s' hs
  exact ⟨m, hm, hext.mono hle⟩

theorem append (h : LeavesOnly ts left) (h' : LeavesOnly us left') :
    LeavesOnly (ts ++ us) (left ++ left') := by
  intro l s' hs
  obtain ⟨s1, hs1, hs2⟩ := serves_append_iff.mp hs
  obtain ⟨m, rfl, hext⟩ := h l s1 hs1
  obtain ⟨n, hn, hext'⟩ := h' m s' hs2
  exact ⟨n, hn, hext.trans hext'⟩

theorem of_quiet (h : ∀ t ∈ ts, t.isQuiet = true) : LeavesOnly ts [] := by
  intro l s' hs
  exact ⟨l, (serves_quiet_iff h).mp hs, .refl l⟩

theorem nil : LeavesOnly [] [] :=
  of_quiet fun _ h => absurd h List.not_mem_nil

end LeavesOnly

/-! ## Single alerts -/

/-- The outage that was left behind without a record, if adding an alert ended so. -/
def strandedIn {α : Type} : Except IngestError α → List Uuid
  | .ok _ => []
  | .error e => e.stranded?.toList

variable {a : Alert} {ts : List ImportTurn}

theorem failures_append (ts us : List ImportTurn) :
    failures (ts ++ us) = failures ts ++ failures us :=
  List.filterMap_append

namespace Sample

/-- The import of an alert that the store refuses, as it then refuses to delete the outage. -/
def refused : Operation where
  job := .live "A" none
  run := (Job.live "A" none).importer.runOf
    (stage (.ok page)
      [⟨.createAlert, none, .backend "full"⟩, ⟨.deleteOutage, none, .backend "locked"⟩]).handler
    (start .empty)

end Sample

end OutageLedger
