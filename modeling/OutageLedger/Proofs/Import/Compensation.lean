import OutageLedger.Proofs.Import.Interleaving
import OutageLedger.Proofs.Import.Outcome

/-
  What is taken back when adding an alert fails while others use the store. The outage opened for the alert is
  deleted with whatever is attached to it by then, so that a record of another importer goes too if it was added
  to this outage meanwhile (`record_lost_with_outage`). Records that others have added elsewhere stay. Main
  statement: `records_of_others_kept`.
-/

namespace OutageLedger

namespace ImportTurn

/-- The turn deletes an outage. -/
def removes (id : Uuid) : ImportTurn → Bool
  | ⟨.store (.deleteOutage u), .ok _⟩ => u = id
  | _ => false

/-- The turn in which a record is added. -/
def added (r : AlertRecord) : ImportTurn :=
  ⟨.store (.createAlert r), .ok ()⟩

theorem mem_deletions_of_removes {t : ImportTurn} {id : Uuid} {ts : List ImportTurn} (ht : t ∈ ts)
    (h : t.removes id = true) : ∃ b, (id, .ok b) ∈ deletions ts := by
  obtain ⟨c, r⟩ := t
  cases c with
  | store c =>
    cases c with
    | deleteOutage u =>
      match r with
      | .ok b =>
        obtain rfl : u = id := of_decide_eq_true h
        exact ⟨b, List.mem_filterMap.mpr ⟨_, ht, rfl⟩⟩
      | .error e => cases h
    | _ => cases h
  | _ => cases h

end ImportTurn

namespace Store

variable {s s' : Store} {r : AlertRecord}

/-- A record stays through every call but the deletion of its outage. -/
theorem mem_alerts_of_obeys {c : StoreCall} {res : Except StoreError c.Answer} (h : Obeys s c res s')
    (hr : r.row ∈ s.alerts) (hkept : ImportTurn.removes r.outageId ⟨.store c, res⟩ = false) :
    r.row ∈ s'.alerts := by
  cases res with
  | error e =>
    obtain rfl : s' = s := h
    exact hr
  | ok answer =>
    cases c with
    | find key =>
      obtain rfl : s' = s := h
      exact hr
    | createOutage o =>
      obtain rfl : s' = s.grown [o] [] := h
      exact List.mem_append_left _ hr
    | createAlert x =>
      obtain rfl : s' = s.grown [] [x] := h
      exact List.mem_append_left _ hr
    | deleteOutage id =>
      obtain rfl : s' = s.deleteOutage id := h
      have hne : id ≠ r.outageId := of_decide_eq_false hkept
      have hcell : r.row.cell 1 = .uuid r.outageId := rfl
      unfold deleteOutage
      split
      · refine List.mem_filter.mpr ⟨hr, ?_⟩
        rw [hcell, bne_iff_ne]
        exact fun heq => hne (Ledger.uuid_inj.mp heq).symm
      · exact hr

/-- A record stays through any turns that do not delete its outage. -/
theorem mem_alerts_of_serves {ts : List ImportTurn} (hs : Serves Obeys s ts s') (hr : r.row ∈ s.alerts)
    (hkept : ∀ t ∈ ts, t.removes r.outageId = false) : r.row ∈ s'.alerts := by
  induction ts generalizing s with
  | nil =>
    obtain rfl : s' = s := hs
    exact hr
  | cons t ts ih =>
    have hrest := fun u hu => hkept u (List.mem_cons_of_mem t hu)
    obtain ⟨c, reply⟩ := t
    cases c with
    | store c =>
      obtain ⟨m, hcall, hs⟩ := hs
      exact ih hs (mem_alerts_of_obeys hcall hr (hkept _ List.mem_cons_self)) hrest
    | _ => exact ih hs hr hrest

end Store

open Store Schedule ImportTurn

/-- While an alert is being added to an outage of its own, others may use the store. A record that one of them
adds, and that none of them removes again, is still there at the end, whatever comes of the alert, unless it
was attached to the outage that was opened for the alert and had to be deleted again. -/
theorem records_of_others_kept {n : Nat} {i j : Fin n} (hij : j ≠ i) {stamp : Importer.Stamp} {a : Alert}
    {r : AlertRecord} {σ τ : Schedule n} {res : Except IngestError Importer.Created} {s s' : Store}
    (hends : (Importer.create stamp a none).Ends (own (σ ++ (j, added r) :: τ) i) res)
    (hs : Serves Obeys s (turns (σ ++ (j, added r) :: τ)) s')
    (hkept : ∀ x ∈ τ, x.1 ≠ i → x.2.removes r.outageId = false) :
    r.row ∈ s'.alerts ∨
      (∃ o, o.id = r.outageId ∧ (o, .ok ()) ∈ openings (own (σ ++ (j, added r) :: τ) i)) ∧
        ∃ t ∈ own τ i, t.removes r.outageId = true := by
  obtain ⟨m, -, hrest⟩ := serves_append_iff.mp (turns_append σ _ ▸ hs)
  obtain ⟨m', hadd, hlater⟩ := hrest
  obtain rfl : m' = m.grown [] [r] := hadd
  have hadded : r.row ∈ (m.grown [] [r]).alerts := List.mem_append_right _ List.mem_cons_self
  by_cases hgone : ∃ x ∈ τ, x.2.removes r.outageId = true
  · right
    obtain ⟨⟨k, t⟩, hx, ht⟩ := hgone
    obtain rfl : k = i := by
      by_contra hk
      rw [hkept _ hx hk] at ht
      cases ht
    have hown : t ∈ own τ k := List.mem_map.mpr ⟨(k, t), List.mem_filter.mpr ⟨hx, by simp⟩, rfl⟩
    have hall : t ∈ own (σ ++ (j, added r) :: τ) k := by
      rw [own_append, own_cons_of_ne hij.symm]
      exact List.mem_append_right _ hown
    -- an importer deletes no outage but that which it has opened
    obtain ⟨b, hdeleted⟩ := mem_deletions_of_removes hall ht
    obtain ⟨-, hopened, -⟩ := ((Importer.ends_create hends).deletes_iff.2 r.outageId).mp ⟨_, hdeleted⟩
    exact ⟨hopened, t, hown, ht⟩
  · left
    refine mem_alerts_of_serves hlater hadded fun t ht => ?_
    obtain ⟨x, hx, rfl⟩ := List.mem_map.mp ht
    rw [Bool.eq_false_iff]
    exact fun h => hgone ⟨x, hx, h⟩

/-! ## An alert that is imported twice at once -/

namespace Sample

/-- What an alert being added comes to, and what the import of one comes to. -/
def RaceResult : Fin 2 → Type
  | 0 => Except IngestError Importer.Created
  | 1 => Except LiveError Importer.LiveImport

/-- An alert is added to an outage of its own, and imported meanwhile. -/
def race (target : Option Uuid) : (i : Fin 2) → Importer (RaceResult i)
  | 0 => Importer.create .trigger (alert "A") none
  | 1 => Importer.importAlert "A" target

/-- The import takes its turns when the outage has been opened, and before the alert is added to it. -/
def raceOrder (meanwhile : ℕ) : List (Fin 2) :=
  List.replicate 3 ⟨0, Nat.zero_lt_two⟩ ++ List.replicate meanwhile (Fin.last 1) ++
    List.replicate 4 ⟨0, Nat.zero_lt_two⟩

def raced (target : Option Uuid) (meanwhile : ℕ) :
    Schedule 2 × ((i : Fin 2) → Importer (RaceResult i)) × Rehearsal Unit :=
  play (stage (.ok page) []).handler (raceOrder meanwhile) (race target) (start .empty)

theorem ends_raced {target : Option Uuid} {meanwhile : ℕ} {i : Fin 2} {res : RaceResult i}
    (h : (raced target meanwhile).2.1 i = .done res) :
    (race target i).Ends (own (raced target meanwhile).1 i) res := by
  have hleads :=
    leads_play (stage (.ok page) []).handler (raceOrder meanwhile) (race target) (start .empty) i
  have hend : (play (stage (.ok page) []).handler (raceOrder meanwhile) (race target)
      (start .empty)).2.1 i = .done res := h
  rwa [hend] at hleads

theorem serves_raced (target : Option Uuid) (meanwhile : ℕ) :
    Serves Performs .empty (turns (raced target meanwhile).1) (raced target meanwhile).2.2.store :=
  serves_play rfl (raceOrder meanwhile) (race target) (start .empty)

/-- The import is asked to add the alert to the outage just opened for it, and does so first. -/
def racedInto : Schedule 2 × ((i : Fin 2) → Importer (RaceResult i)) × Rehearsal Unit :=
  raced (some (id 0)) 6

def lost : AlertRecord :=
  ⟨id 1, id 0, alert "A", .epoch⟩

theorem fresh_racedInto : Store.empty.Fresh (drawnIds (turns racedInto.1)) := by
  have hids : drawnIds (turns racedInto.1) = [id 0, id 1, id 2] := by
    decide +kernel
  rw [hids]
  constructor <;> decide +kernel

/-- The import opens an outage of its own, and adds the alert first. -/
def racedApart : Schedule 2 × ((i : Fin 2) → Importer (RaceResult i)) × Rehearsal Unit :=
  raced none 8

def kept : AlertRecord :=
  ⟨id 2, id 1, alert "A", .epoch⟩

end Sample

/-- A record that an import has added to the outage opened for the alert goes with that outage, although by
then the import has ended, and nobody but the failed call has deleted anything. -/
theorem record_lost_with_outage :
    ∃ (σ τ : Schedule 2) (r : AlertRecord) (s' : Store),
      (Importer.create .trigger r.alert none).Ends (own (σ ++ (1, added r) :: τ) 0)
        (.error (.duplicate r.key)) ∧
      (Importer.importAlert "A" (some r.outageId)).Ends (own (σ ++ (1, added r) :: τ) 1) (.ok ⟨r, true⟩) ∧
      Store.empty.Fresh (drawnIds (turns (σ ++ (1, added r) :: τ))) ∧
      Serves Performs .empty (turns (σ ++ (1, added r) :: τ)) s' ∧
      (∀ x ∈ τ, x.1 ≠ 0 → x.2.removes r.outageId = false) ∧ r.row ∉ s'.alerts := by
  have hmem : (1, added Sample.lost) ∈ Sample.racedInto.1 := List.mem_of_getElem? (i := 7) rfl
  obtain ⟨σ, τ, hsplit⟩ := List.append_of_mem hmem
  have hothers : ∀ x ∈ Sample.racedInto.1, x.1 ≠ 0 → x.2.removes (Sample.id 0) = false := by
    decide +kernel
  refine ⟨σ, τ, Sample.lost, Sample.racedInto.2.2.store, ?_, ?_, ?_, ?_, fun x hx hne => ?_, ?_⟩
  · rw [← hsplit]
    exact Sample.ends_raced (i := 0) rfl
  · rw [← hsplit]
    exact Sample.ends_raced (i := 1) rfl
  · rw [← hsplit]
    exact Sample.fresh_racedInto
  · rw [← hsplit]
    exact Sample.serves_raced _ _
  · refine hothers x ?_ hne
    rw [hsplit]
    exact List.mem_append_right σ (List.mem_cons_of_mem _ hx)
  · decide +kernel

/-- A record that an import has added to another outage stays. -/
theorem records_of_others_kept_apart :
    ∃ (σ τ : Schedule 2) (s' : Store),
      (Importer.create .trigger (Sample.alert "A") none).Ends (own (σ ++ (1, added Sample.kept) :: τ) 0)
        (.error (.duplicate (Sample.alert "A").key)) ∧
      Serves Obeys .empty (turns (σ ++ (1, added Sample.kept) :: τ)) s' ∧
      (∀ x ∈ τ, x.1 ≠ 0 → x.2.removes Sample.kept.outageId = false) ∧ Sample.kept.row ∈ s'.alerts := by
  have hmem : (1, added Sample.kept) ∈ Sample.racedApart.1 := List.mem_of_getElem? (i := 9) rfl
  obtain ⟨σ, τ, hsplit⟩ := List.append_of_mem hmem
  have hnone : ∀ x ∈ Sample.racedApart.1, x.2.removes Sample.kept.outageId = false := by
    decide +kernel
  have hothers : ∀ x ∈ τ, x.2.removes Sample.kept.outageId = false := by
    intro x hx
    refine hnone x ?_
    rw [hsplit]
    exact List.mem_append_right σ (List.mem_cons_of_mem _ hx)
  have hends : (Importer.create .trigger (Sample.alert "A") none).Ends
      (own (σ ++ (1, added Sample.kept) :: τ) 0) (.error (.duplicate (Sample.alert "A").key)) := by
    rw [← hsplit]
    exact Sample.ends_raced (i := 0) rfl
  have hs : Serves Obeys .empty (turns (σ ++ (1, added Sample.kept) :: τ)) Sample.racedApart.2.2.store := by
    rw [← hsplit]
    exact (Sample.serves_raced _ _).mono fun _ _ _ _ h => obeys_of_performs h
  refine ⟨σ, τ, _, hends, hs, fun x hx _ => hothers x hx, ?_⟩
  rcases records_of_others_kept (by decide) hends hs fun x hx _ => hothers x hx with
    hkept | ⟨-, t, ht, hgone⟩
  · exact hkept
  · obtain ⟨x, hx, rfl⟩ := List.mem_map.mp ht
    rw [hothers x (List.mem_of_mem_filter hx)] at hgone
    cases hgone

end OutageLedger
