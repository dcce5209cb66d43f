import Mathlib.Algebra.BigOperators.Fin
import OutageLedger.Proofs.Import.View
import OutageLedger.Proofs.Store.LookUp

/-
  Importers at work on one ledger. `InOrder` holds of the ledger and the views of all of them between any
  two turns. Main statement: `InOrder.turn`, a turn of any importer that keeps to the contract is answered
  as its view expects, and leaves everything in order.
-/

namespace OutageLedger

open Function Store

namespace View

/-- The view is right about the ledger, while these ids are still to be drawn. -/
structure IsRight (g : View) (l : Ledger) (ids : List Uuid) : Prop where
  spare : ∀ u, g.spare = some u → u ∉ l.outageIds ∧ u ∉ l.recordIds ∧ u ∉ ids
  pending : ∀ u, g.pending = some u → u ∈ l.outageIds ∧ u ∉ l.referents
  known : ∀ key ∈ g.known, key ∈ l.keys

/-- What two importers have drawn and not used, or opened and not used, is not the same. -/
structure Apart (g g' : View) : Prop where
  spare : ∀ u, g.spare = some u → g'.spare ≠ some u
  pending : ∀ u, g.pending = some u → g'.pending ≠ some u

theorem Apart.symm {g g' : View} (h : g.Apart g') : g'.Apart g :=
  ⟨fun u h1 h2 => h.spare u h2 h1, fun u h1 h2 => h.pending u h2 h1⟩

end View

/-- A ledger on which importers are at work with these views, which was `l₀` at first, while these ids
are still to be drawn. -/
structure InOrder {n : Nat} (l₀ l : Ledger) (v : Fin n → View) (ids : List Uuid) : Prop where
  fresh : l.Fresh ids
  right : ∀ i, (v i).IsRight l ids
  apart : ∀ i j, i ≠ j → (v i).Apart (v j)
  added : l.alerts.length = l₀.alerts.length + ∑ i, (v i).added
  /-- An outage that was not there at first is waiting for its record, or has it. -/
  owned : ∀ o ∈ l.outages, o.id ∈ l₀.outageIds ∨ (∃ i, (v i).pending = some o.id) ∨
    l.referents.count o.id = 1

namespace InOrder

variable {n : Nat} {l₀ l m : Ledger} {v : Fin n → View} {ids ids' : List Uuid} {i : Fin n} {g : View}

/-! ## One view that changes -/

theorem right_update (hi : g.IsRight l ids) (hothers : ∀ j, j ≠ i → (v j).IsRight l ids) :
    ∀ j, (update v i g j).IsRight l ids := by
  intro j
  by_cases hj : j = i
  · subst hj
    rw [update_self]
    exact hi
  · rw [update_of_ne hj]
    exact hothers j hj

theorem apart_update (h : ∀ j k, j ≠ k → (v j).Apart (v k)) (hi : ∀ j, j ≠ i → g.Apart (v j)) :
    ∀ j k, j ≠ k → (update v i g j).Apart (update v i g k) := by
  intro j k hjk
  by_cases hj : j = i
  · subst hj
    rw [update_self, update_of_ne hjk.symm]
    exact hi k hjk.symm
  · rw [update_of_ne hj]
    by_cases hk : k = i
    · subst hk
      rw [update_self]
      exact (hi j hj).symm
    · rw [update_of_ne hk]
      exact h j k hjk

theorem sum_update (v : Fin n → View) (i : Fin n) (g : View) :
    ∑ j, (update v i g j).added + (v i).added = ∑ j, (v j).added + g.added := by
  have hrest : ∑ j ∈ Finset.univ.erase i, (update v i g j).added =
      ∑ j ∈ Finset.univ.erase i, (v j).added := by
    refine Finset.sum_congr rfl fun j hj => ?_
    rw [update_of_ne (Finset.ne_of_mem_erase hj)]
  have hafter := Finset.add_sum_erase Finset.univ (fun j => (update v i g j).added) (Finset.mem_univ i)
  have hbefore := Finset.add_sum_erase Finset.univ (fun j => (v j).added) (Finset.mem_univ i)
  simp only [update_self] at hafter
  omega

theorem sum_update_of_eq (h : g.added = (v i).added) :
    ∑ j, (update v i g j).added = ∑ j, (v j).added := by
  have hsum := sum_update v i g
  rw [h] at hsum
  exact Nat.add_right_cancel hsum

/-- An outage that is pending stays so, unless it is given up. -/
theorem pending_update {u : Uuid} (h : ∃ j, (v j).pending = some u)
    (hi : (v i).pending = some u → g.pending = some u) : ∃ j, (update v i g j).pending = some u := by
  obtain ⟨j, hj⟩ := h
  refine ⟨j, ?_⟩
  by_cases hji : j = i
  · subst hji
    rw [update_self]
    exact hi hj
  · rw [update_of_ne hji, hj]

/-! ## Turns that leave the ledger as it is -/

/-- A spare id may be given up, and what is on record may become known. -/
theorem look (h : InOrder l₀ l v ids) (hspare : ∀ u, g.spare = some u → (v i).spare = some u)
    (hpending : g.pending = (v i).pending) (hknown : ∀ key ∈ g.known, key ∈ l.keys)
    (hadded : g.added = (v i).added) : InOrder l₀ l (update v i g) ids where
  fresh := h.fresh
  right := by
    refine right_update ⟨fun u hu => (h.right i).spare u (hspare u hu), fun u hu => ?_, hknown⟩
      fun j _ => h.right j
    exact (h.right i).pending u (hpending ▸ hu)
  apart := by
    refine apart_update h.apart fun j hj => ⟨fun u hu => ?_, fun u hu => ?_⟩
    · exact (h.apart i j hj.symm).spare u (hspare u hu)
    · exact (h.apart i j hj.symm).pending u (hpending ▸ hu)
  added := by rw [h.added, sum_update_of_eq hadded]
  owned := fun o ho => (h.owned o ho).imp_right fun hor =>
    hor.imp_left fun hwaits => pending_update hwaits fun hi => hpending.trans hi

/-- An id is drawn. -/
theorem draw {u : Uuid} (h : InOrder l₀ l v (u :: ids)) (hspare : g.spare = some u)
    (hpending : g.pending = (v i).pending) (hknown : g.known = (v i).known)
    (hadded : g.added = (v i).added) : InOrder l₀ l (update v i g) ids where
  fresh := ⟨(List.nodup_cons.mp h.fresh.nodup).2,
    fun w hw => h.fresh.not_outage w (List.mem_cons_of_mem u hw),
    fun w hw => h.fresh.not_record w (List.mem_cons_of_mem u hw)⟩
  right := by
    refine right_update ⟨fun w hw => ?_, fun w hw => ?_, fun key hkey => ?_⟩ fun j _ => ?_
    · obtain rfl := Option.some.inj (hspare.symm.trans hw)
      exact ⟨h.fresh.not_outage _ List.mem_cons_self, h.fresh.not_record _ List.mem_cons_self,
        (List.nodup_cons.mp h.fresh.nodup).1⟩
    · exact (h.right i).pending w (hpending ▸ hw)
    · exact (h.right i).known key (hknown ▸ hkey)
    · refine ⟨fun w hw => ?_, (h.right j).pending, (h.right j).known⟩
      obtain ⟨houtage, hrecord, hids⟩ := (h.right j).spare w hw
      exact ⟨houtage, hrecord, fun hmem => hids (List.mem_cons_of_mem u hmem)⟩
  apart := by
    refine apart_update h.apart fun j hj => ⟨fun w hw hwj => ?_, fun w hw => ?_⟩
    · obtain rfl := Option.some.inj (hspare.symm.trans hw)
      exact ((h.right j).spare _ hwj).2.2 List.mem_cons_self
    · exact (h.apart i j hj.symm).pending w (hpending ▸ hw)
  added := by rw [h.added, sum_update_of_eq hadded]
  owned := fun o ho => (h.owned o ho).imp_right fun hor =>
    hor.imp_left fun hwaits => pending_update hwaits fun hi => hpending.trans hi

/-! ## Turns that change the ledger -/

/-- The spare id becomes that of an outage that is pending. -/
theorem openOutage (h : InOrder l₀ l v ids) {o : Outage} (hnew : o.id ∉ l.outageIds)
    (hspare : (v i).spare = some o.id) (hnone : (v i).pending = none) (hgspare : g.spare = none)
    (hpending : g.pending = some o.id) (hknown : g.known = (v i).known)
    (hadded : g.added = (v i).added) : InOrder l₀ (l.addOutage o hnew) (update v i g) ids where
  fresh := by
    have hids := ((h.right i).spare o.id hspare).2.2
    refine ⟨h.fresh.nodup, fun w hw hmem => ?_, h.fresh.not_record⟩
    rcases (Ledger.mem_outageIds_addOutage hnew).mp hmem with hmem | heq
    · exact h.fresh.not_outage w hw hmem
    · exact hids (heq ▸ hw)
  right := by
    have houtageIds : ∀ {w : Uuid}, w ∈ (l.addOutage o hnew).outageIds ↔ _ :=
      Ledger.mem_outageIds_addOutage hnew
    refine right_update ⟨fun w hw => ?_, fun w hw => ?_, fun key hkey => ?_⟩ fun j hj => ?_
    · cases hgspare.symm.trans hw
    · obtain rfl := Option.some.inj (hpending.symm.trans hw)
      refine ⟨houtageIds.mpr (Or.inr rfl), fun hmem => ?_⟩
      obtain ⟨r, hr, hid⟩ := List.mem_map.mp hmem
      exact hnew (hid ▸ l.attached r hr)
    · exact (h.right i).known key (hknown ▸ hkey)
    · refine ⟨fun w hw => ?_, fun w hw => ?_, (h.right j).known⟩
      · obtain ⟨houtage, hrecord, hids⟩ := (h.right j).spare w hw
        refine ⟨fun hmem => ?_, hrecord, hids⟩
        rcases houtageIds.mp hmem with hmem | heq
        · exact houtage hmem
        · exact (h.apart i j hj.symm).spare w (heq ▸ hspare) hw
      · obtain ⟨houtage, hrecord⟩ := (h.right j).pending w hw
        exact ⟨houtageIds.mpr (Or.inl houtage), hrecord⟩
  apart := by
    refine apart_update h.apart fun j hj => ⟨fun w hw => ?_, fun w hw hwj => ?_⟩
    · cases hgspare.symm.trans hw
    · obtain rfl := Option.some.inj (hpending.symm.trans hw)
      exact hnew ((h.right j).pending _ hwj).1
  added := by
    show l.alerts.length = _
    rw [h.added, sum_update_of_eq hadded]
  owned := by
    intro p hp
    rcases List.mem_append.mp hp with hp | hp
    · refine (h.owned p hp).imp_right fun hor => hor.imp_left fun hwaits => ?_
      exact pending_update hwaits fun hi => absurd (hnone.symm.trans hi) (by simp)
    · rw [List.mem_singleton.mp hp]
      exact Or.inr (Or.inl ⟨i, by rw [update_self, hpending]⟩)

/-- The outage that is pending gets its record, whose id was the spare one. -/
theorem addRecord (h : InOrder l₀ l v ids) {r : AlertRecord} (hkey : r.key ∉ l.keys)
    (hid : r.id ∉ l.recordIds) (houtage : r.outageId ∈ l.outageIds)
    (hspare : (v i).spare = some r.id) (hpending : (v i).pending = some r.outageId)
    (hgspare : g.spare = none) (hgpending : g.pending = none)
    (hknown : ∀ key ∈ g.known, key ∈ (v i).known ∨ key = r.key)
    (hadded : g.added = (v i).added + 1) :
    InOrder l₀ (l.addAlert r hkey hid houtage) (update v i g) ids where
  fresh := by
    have hids := ((h.right i).spare r.id hspare).2.2
    refine ⟨h.fresh.nodup, h.fresh.not_outage, fun w hw hmem => ?_⟩
    rcases (Ledger.mem_recordIds_addAlert hkey hid houtage).mp hmem with hmem | heq
    · exact h.fresh.not_record w hw hmem
    · exact hids (heq ▸ hw)
  right := by
    refine right_update ⟨fun w hw => ?_, fun w hw => ?_, fun key hmem => ?_⟩ fun j hj => ?_
    · cases hgspare.symm.trans hw
    · cases hgpending.symm.trans hw
    · refine (Ledger.mem_keys_addAlert hkey hid houtage).mpr ?_
      exact (hknown key hmem).imp_left ((h.right i).known key)
    · refine ⟨fun w hw => ?_, fun w hw => ?_, fun key hmem => ?_⟩
      · obtain ⟨hnot, hrecord, hids⟩ := (h.right j).spare w hw
        refine ⟨hnot, fun hmem => ?_, hids⟩
        rcases (Ledger.mem_recordIds_addAlert hkey hid houtage).mp hmem with hmem | heq
        · exact hrecord hmem
        · exact (h.apart i j hj.symm).spare w (heq ▸ hspare) hw
      · obtain ⟨hopen, hrecord⟩ := (h.right j).pending w hw
        refine ⟨hopen, fun hmem => ?_⟩
        rcases (Ledger.mem_referents_addAlert hkey hid houtage).mp hmem with hmem | heq
        · exact hrecord hmem
        · exact (h.apart i j hj.symm).pending w (heq ▸ hpending) hw
      · refine (Ledger.mem_keys_addAlert hkey hid houtage).mpr (Or.inl ?_)
        exact (h.right j).known key hmem
  apart := by
    refine apart_update h.apart fun j hj => ⟨fun w hw => ?_, fun w hw => ?_⟩
    · cases hgspare.symm.trans hw
    · cases hgpending.symm.trans hw
  added := by
    have hsum := sum_update v i g
    have hlength : (l.addAlert r hkey hid houtage).alerts.length = l.alerts.length + 1 :=
      List.length_append
    have hbefore := h.added
    omega
  owned := by
    intro o ho
    rw [(Ledger.grows_addAlert hkey hid houtage).referents, List.count_append]
    have hnone : r.outageId ∉ l.referents := ((h.right i).pending r.outageId hpending).2
    by_cases heq : o.id = r.outageId
    · refine Or.inr (Or.inr ?_)
      rw [heq, List.count_eq_zero_of_not_mem hnone, List.map_singleton, List.count_singleton_self]
    · have hother : List.count o.id ([r].map (·.outageId)) = 0 :=
        List.count_eq_zero_of_not_mem fun hmem => heq (List.mem_singleton.mp hmem)
      rw [hother]
      refine (h.owned o ho).imp_right fun hor => hor.imp_left fun hwaits => ?_
      exact pending_update hwaits fun hi => absurd (Option.some.inj (hi.symm.trans hpending)) heq

/-- The outage that is pending is removed again, and with it nothing else. -/
theorem removeOutage (h : InOrder l₀ l v ids) {id : Uuid} (hpending : (v i).pending = some id)
    (hspare : g.spare = (v i).spare) (hgpending : g.pending = none) (hknown : g.known = (v i).known)
    (hadded : g.added = (v i).added) :
    InOrder l₀ (l.removeOutage id) (update v i g) ids ∧ (l.removeOutage id).alerts = l.alerts := by
  have hnone : id ∉ l.referents := ((h.right i).pending id hpending).2
  have halerts : (l.removeOutage id).alerts = l.alerts := by
    refine List.filter_eq_self.mpr fun r hr => ?_
    exact decide_eq_true fun heq => hnone (heq ▸ List.mem_map_of_mem hr)
  have hrecordIds : (l.removeOutage id).recordIds = l.recordIds := by
    unfold Ledger.recordIds
    rw [halerts]
  have hreferents : (l.removeOutage id).referents = l.referents := by
    unfold Ledger.referents
    rw [halerts]
  have hkeys : (l.removeOutage id).keys = l.keys := by
    unfold Ledger.keys
    rw [halerts]
  have hsub : ∀ w ∈ (l.removeOutage id).outageIds, w ∈ l.outageIds := fun w hw =>
    List.map_subset _ (List.filter_subset_self _) hw
  have hrest : ∀ w ∈ l.outageIds, w ≠ id → w ∈ (l.removeOutage id).outageIds := by
    intro w hw hne
    obtain ⟨o, ho, rfl⟩ := List.mem_map.mp hw
    exact List.mem_map_of_mem (List.mem_filter.mpr ⟨ho, decide_eq_true hne⟩)
  refine ⟨⟨?_, right_update ⟨fun w hw => ?_, fun w hw => ?_, fun key hmem => ?_⟩ fun j hj => ?_,
    apart_update h.apart fun j hj => ⟨fun w hw => ?_, fun w hw => ?_⟩, ?_, fun o ho => ?_⟩, halerts⟩
  · refine ⟨h.fresh.nodup, fun w hw hmem => h.fresh.not_outage w hw (hsub w hmem), ?_⟩
    rw [hrecordIds]
    exact h.fresh.not_record
  · obtain ⟨hnot, hrecord, hids⟩ := (h.right i).spare w (hspare ▸ hw)
    exact ⟨fun hmem => hnot (hsub w hmem), hrecordIds ▸ hrecord, hids⟩
  · cases hgpending.symm.trans hw
  · rw [hkeys]
    exact (h.right i).known key (hknown ▸ hmem)
  · refine ⟨fun w hw => ?_, fun w hw => ?_, ?_⟩
    · obtain ⟨hnot, hrecord, hids⟩ := (h.right j).spare w hw
      exact ⟨fun hmem => hnot (hsub w hmem), hrecordIds ▸ hrecord, hids⟩
    · obtain ⟨hopen, hrecord⟩ := (h.right j).pending w hw
      refine ⟨hrest w hopen fun heq => ?_, hreferents ▸ hrecord⟩
      exact (h.apart i j hj.symm).pending w (heq ▸ hpending) hw
    · rw [hkeys]
      exact (h.right j).known
  · exact (h.apart i j hj.symm).spare w (hspare ▸ hw)
  · cases hgpending.symm.trans hw
  · rw [halerts, h.added, sum_update_of_eq hadded]
  · obtain ⟨ho, hne⟩ := List.mem_filter.mp ho
    rw [hreferents]
    refine (h.owned o ho).imp_right fun hor => hor.imp_left fun hwaits => ?_
    refine pending_update hwaits fun hi => absurd ?_ (of_decide_eq_true hne)
    exact Option.some.inj (hi.symm.trans hpending)

/-! ## Every turn -/

/-- What is looked up is found if it is on record and reads back. -/
theorem turn_find (h : InOrder l₀ l v ids) (i : Fin n) {key : AlertKey}
    {r : Except StoreError (Option AlertRecord)} {s' : Store}
    (hcall : Performs l.store (.find key) r s') :
    (v i).expects (.store (.find key)) r ∧ s' = l.store ∧
      InOrder l₀ l (update v i ((v i).after (.store (.find key)) r)) ids := by
  have hreply : l.store.find key = r := congrArg Prod.fst hcall
  have hlearned : ∀ k ∈ ((v i).learn key).known, k ∈ (v i).known ∨ k = key := fun k hk =>
    (List.mem_append.mp hk).imp_right List.mem_singleton.mp
  by_cases hkey : key ∈ l.keys
  · have hknown : ∀ k ∈ ((v i).learn key).known, k ∈ l.keys := by
      intro k hk
      rcases hlearned k hk with hk | rfl
      · exact (h.right i).known k hk
      · exact hkey
    have hlook : InOrder l₀ l (update v i ((v i).learn key)) ids :=
      h.look (fun u hu => hu) rfl hknown rfl
    rcases Ledger.find_of_mem_keys hkey with ⟨-, found, -, -, hfind⟩ | ⟨-, e, hfind⟩
    · obtain rfl := hreply.symm.trans hfind
      exact ⟨(fun hnone => nomatch hnone), (congrArg Prod.snd hcall).symm, hlook⟩
    · obtain rfl := hreply.symm.trans hfind
      exact ⟨(fun hnone => nomatch hnone), (congrArg Prod.snd hcall).symm, hlook⟩
  · obtain rfl := hreply.symm.trans (l.find_of_not_mem hkey)
    refine ⟨fun _ hknown => hkey ((h.right i).known key hknown), (congrArg Prod.snd hcall).symm, ?_⟩
    exact h.look (fun u hu => hu) rfl (h.right i).known rfl

/-- A turn of an importer that keeps to the contract is answered as its view expects, and everything is
in order after it. -/
theorem turn {c : ImportCall} {r : c.Reply} {s' : Store}
    (h : InOrder l₀ l v (drawnIds [⟨c, r⟩] ++ ids)) (hpermits : (v i).permits c)
    (hs : Serves Performs l.store [⟨c, r⟩] s') :
    (v i).expects c r ∧ ∃ m : Ledger, s' = m.store ∧ l.alerts <+: m.alerts ∧
      InOrder l₀ m (update v i ((v i).after c r)) ids := by
  have hsame : ∀ g : View, (∀ u, g.spare = some u → (v i).spare = some u) →
      g.pending = (v i).pending → g.known = (v i).known → g.added = (v i).added →
      InOrder l₀ l v ids → InOrder l₀ l (update v i g) ids := fun g h1 h2 h3 h4 horder =>
    horder.look h1 h2 (h3 ▸ (horder.right i).known) h4
  cases c with
  | ask q => exact ⟨trivial, l, hs, List.prefix_rfl, hsame _ (fun u hu => hu) rfl rfl rfl h⟩
  | pause => exact ⟨trivial, l, hs, List.prefix_rfl, hsame _ (fun u hu => hu) rfl rfl rfl h⟩
  | now => exact ⟨trivial, l, hs, List.prefix_rfl, hsame _ (fun u hu => hu) rfl rfl rfl h⟩
  | note e => exact ⟨trivial, l, hs, List.prefix_rfl, hsame _ (fun u hu => hu) rfl rfl rfl h⟩
  | newId => exact ⟨trivial, l, hs, List.prefix_rfl, h.draw rfl rfl rfl rfl⟩
  | store c =>
    obtain ⟨s1, hcall, rfl⟩ := hs
    replace h : InOrder l₀ l v ids := h
    cases c with
    | find key =>
      obtain ⟨hexpects, hstore, horder⟩ := h.turn_find i hcall
      exact ⟨hexpects, l, hstore, List.prefix_rfl, horder⟩
    | createOutage o =>
      obtain ⟨hspare, hnone⟩ := hpermits
      have hnew := ((h.right i).spare o.id hspare).1
      cases (l.perform_createOutage hnew).symm.trans hcall
      exact ⟨rfl, _, rfl, List.prefix_rfl, h.openOutage hnew hspare hnone rfl rfl rfl rfl⟩
    | createAlert a =>
      obtain ⟨hspare, hpending⟩ := hpermits
      have hid := ((h.right i).spare a.id hspare).2.1
      have houtage := ((h.right i).pending a.outageId hpending).1
      by_cases hkey : a.key ∈ l.keys
      · cases (l.perform_createAlert_of_mem hkey).symm.trans hcall
        refine ⟨Or.inr rfl, l, rfl, List.prefix_rfl, h.look (fun u hu => ?_) rfl (fun k hk => ?_) rfl⟩
        · cases hu
        · rcases List.mem_append.mp hk with hk | hk
          · exact (h.right i).known k hk
          · rw [List.mem_singleton.mp hk]
            exact hkey
      · cases (l.perform_createAlert hkey hid houtage).symm.trans hcall
        refine ⟨Or.inl rfl, _, rfl, List.prefix_append _ _, ?_⟩
        exact h.addRecord hkey hid houtage hspare hpending rfl rfl
          (fun k hk => (List.mem_append.mp hk).imp_right List.mem_singleton.mp) rfl
    | deleteOutage id =>
      have hpending : (v i).pending = some id := hpermits
      have hopen := ((h.right i).pending id hpending).1
      cases (l.perform_deleteOutage id).symm.trans hcall
      obtain ⟨horder, halerts⟩ :=
        h.removeOutage (g := { v i with pending := none }) hpending rfl rfl rfl rfl
      refine ⟨?_, _, rfl, by rw [halerts], horder⟩
      show Except.ok (decide (id ∈ l.outageIds)) = Except.ok true
      rw [decide_eq_true hopen]

end InOrder

end OutageLedger
