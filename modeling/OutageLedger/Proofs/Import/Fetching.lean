import Mathlib.Algebra.Group.Nat.Defs
import OutageLedger.Proofs.Import.Walk

/-
  How a run fetches its pages, whatever the service answers. It may say for ever that there are more: the
  offset of a request grows by the limit from one to the next and never wraps around (`Paging.request_eq`),
  which bounds the number of requests (`Paging.length_le`). There is one pause between any two of them
  (`Paging.paces_eq`). Main statement: `fetches_bounded`.
-/

namespace OutageLedger

/-- What takes time in a run. -/
inductive Pace
  | fetch (r : FetchRequest)
  | pause

/-- The page that is waited for, or the pause. -/
def ImportTurn.pace? : ImportTurn → Option Pace
  | ⟨.ask (.page r), _⟩ => some (.fetch r)
  | ⟨.pause, _⟩ => some .pause
  | _ => none

/-- The requests for pages and the pauses, in order. -/
def paces (ts : List ImportTurn) : List Pace :=
  ts.filterMap ImportTurn.pace?

/-- How many pauses are made. -/
def pauses (ts : List ImportTurn) : Nat :=
  ts.countP fun t => match t.call with
    | .pause => true
    | _ => false

/-- No page is fetched after this one: the service has no more, or it read nothing, or the next offset
would be too large. -/
def FetchRequest.EndsWith (r : FetchRequest) (page : AlertPage) : Prop :=
  page.hasMore = false ∨ page.scanned = 0 ∨ UInt32.size ≤ r.offset.toNat + r.limit.toNat

namespace FetchRequest

theorem eq_of_next? {r r' : FetchRequest} (h : r.next? = some r') :
    r' = { r with offset := r'.offset } := by
  unfold next? at h
  split at h
  · cases h
    rfl
  · cases h

theorem next?_eq_none_iff {r : FetchRequest} :
    r.next? = none ↔ UInt32.size ≤ r.offset.toNat + r.limit.toNat := by
  unfold next?
  split
  · rename_i hlt
    simpa using hlt
  · rename_i hge
    simpa using hge

end FetchRequest

namespace Importer

variable {source : Source} {dryRun : Bool} {stats : ImportStats} {r : FetchRequest}
  {ts : List ImportTurn} {res : ImportStats × Option ImportError}

theorem Stopping.endsWith {page : AlertPage} (h : Stopping source r page ts) : r.EndsWith page := by
  cases h with
  | lastPage h =>
    rcases (Bool.or_eq_true _ _).mp h with hmore | hnone
    · exact Or.inl (by simpa using hmore)
    · exact Or.inr (Or.inl (of_decide_eq_true hnone))
  | outOfRange hmore h => exact Or.inr (Or.inr (FetchRequest.next?_eq_none_iff.mp h))

theorem not_endsWith {page : AlertPage} {next : FetchRequest}
    (hmore : (!page.hasMore || page.scanned = 0) = false) (hnext : r.next? = some next) :
    ¬r.EndsWith page := by
  rw [Bool.or_eq_false_iff] at hmore
  rintro (hlast | hnone | hrange)
  · rw [hlast] at hmore
    exact Bool.false_ne_true hmore.1.symm
  · exact of_decide_eq_false hmore.2 hnone
  · cases hnext.symm.trans (FetchRequest.next?_eq_none_iff.mpr hrange)

/-! ## Requests -/

/-- The request at a place asks for what the first one asks for, so many limits further on. -/
theorem Paging.request_eq (h : Paging source dryRun stats r ts res) {i : Nat} {q : FetchRequest}
    (hq : (pageRequests ts)[i]? = some q) :
    q.offset.toNat = r.offset.toNat + i * r.limit.toNat ∧ q = { r with offset := q.offset } := by
  -- the first request is `r` itself; those after it are the requests of the walk from the next page
  have hfirst : ∀ r : FetchRequest, r.offset.toNat = r.offset.toNat + 0 * r.limit.toNat := by
    intro r
    rw [Nat.zero_mul, Nat.add_zero]
  induction h generalizing i with
  | failed stats r e =>
    cases i with
    | zero =>
      cases hq
      exact ⟨hfirst _, rfl⟩
    | succ i => cases hq
  | @stopped stats stats' r page ts notes hall hstop =>
    rw [pageRequests_page (not_asked_processAll hall),
      pageRequests_of_not_asked (not_asked_of_quiet hstop.quiet)] at hq
    cases i with
    | zero =>
      cases hq
      exact ⟨hfirst _, rfl⟩
    | succ i => cases hq
  | @next stats stats' r next page ts us res hall hmore hnext _ ih =>
    rw [pageRequests_page (not_asked_processAll hall)] at hq
    cases i with
    | zero =>
      cases hq
      exact ⟨hfirst _, rfl⟩
    | succ i =>
      obtain ⟨hoffset, hsame⟩ := ih hq
      have hlimit : r.limit = next.limit := r.limit_next hnext
      have hnextOffset := r.toNat_offset_next hnext
      refine ⟨?_, ?_⟩
      · rw [hoffset, hnextOffset, hlimit, Nat.succ_mul]
        omega
      · rw [hsame, FetchRequest.eq_of_next? hnext]

theorem Paging.exists_request (h : Paging source dryRun stats r ts res) :
    ∃ rest, pageRequests ts = r :: rest := by
  cases h with
  | failed e => exact ⟨[], rfl⟩
  | stopped hall hstop => exact ⟨_, pageRequests_page (not_asked_processAll hall)⟩
  | next hall hmore hnext hrest => exact ⟨_, pageRequests_page (not_asked_processAll hall)⟩

theorem Paging.length_pos (h : Paging source dryRun stats r ts res) :
    0 < (pageRequests ts).length := by
  obtain ⟨rest, hrequests⟩ := h.exists_request
  rw [hrequests]
  exact Nat.succ_pos _

/-- No more pages are asked for than there are offsets, counted in steps of the limit. -/
theorem Paging.length_le (h : Paging source dryRun stats r ts res) (hlimit : r.limit ≠ 0) :
    (pageRequests ts).length ≤ 1 + (UInt32.size - 1 - r.offset.toNat) / r.limit.toNat := by
  have hpos : 0 < r.limit.toNat :=
    Nat.pos_of_ne_zero fun hzero => hlimit (UInt32.toNat_inj.mp hzero)
  have hlength := h.length_pos
  obtain ⟨q, hq⟩ : ∃ q, (pageRequests ts)[(pageRequests ts).length - 1]? = some q :=
    ⟨_, List.getElem?_eq_getElem (by omega)⟩
  obtain ⟨hoffset, -⟩ := h.request_eq hq
  have hbound : q.offset.toNat < UInt32.size := q.offset.toNat_lt
  have hsteps : (pageRequests ts).length - 1 ≤
      (UInt32.size - 1 - r.offset.toNat) / r.limit.toNat := by
    rw [Nat.le_div_iff_mul_le hpos]
    omega
  omega

/-! ## Answers -/

theorem Paging.length_pageAnswers (h : Paging source dryRun stats r ts res) :
    (pageAnswers ts).length = (pageRequests ts).length := by
  induction h with
  | failed stats r e => rfl
  | stopped hall hstop =>
    have hquiet := not_asked_of_quiet hstop.quiet
    rw [pageRequests_page (not_asked_processAll hall), pageAnswers_page (not_asked_processAll hall),
      pageRequests_of_not_asked hquiet, pageAnswers_of_not_asked hquiet]
    rfl
  | @next stats stats' r next page ts us res hall hmore hnext _ ih =>
    rw [pageRequests_page (not_asked_processAll hall), pageAnswers_page (not_asked_processAll hall)]
    exact congrArg (· + 1) ih

/-- A page is the last one that is fetched exactly if no page can follow it. -/
theorem Paging.last_iff (h : Paging source dryRun stats r ts res) {i : Nat} {q : FetchRequest}
    {page : AlertPage} (hq : (pageRequests ts)[i]? = some q)
    (hpage : (pageAnswers ts)[i]? = some (.ok page)) :
    i + 1 = (pageRequests ts).length ↔ q.EndsWith page := by
  induction h generalizing i with
  | failed stats r e =>
    cases i with
    | zero => cases hpage
    | succ i => cases hpage
  | @stopped stats stats' r page ts notes hall hstop =>
    have hquiet := not_asked_of_quiet hstop.quiet
    rw [pageRequests_page (not_asked_processAll hall), pageRequests_of_not_asked hquiet] at hq ⊢
    rw [pageAnswers_page (not_asked_processAll hall), pageAnswers_of_not_asked hquiet] at hpage
    cases i with
    | zero =>
      cases hq
      cases hpage
      exact ⟨fun _ => hstop.endsWith, fun _ => rfl⟩
    | succ i => cases hq
  | @next stats stats' r next page ts us res hall hmore hnext hrest ih =>
    rw [pageRequests_page (not_asked_processAll hall)] at hq ⊢
    rw [pageAnswers_page (not_asked_processAll hall)] at hpage
    rw [List.length_cons, Nat.add_right_cancel_iff]
    cases i with
    | zero =>
      cases hq
      cases hpage
      have hlater : 0 < (pageRequests us).length := hrest.length_pos
      exact ⟨fun hnone => absurd hnone (Nat.ne_of_lt hlater),
        fun hends => absurd hends (not_endsWith hmore hnext)⟩
    | succ i => exact ih hq hpage

/-- A page that cannot be fetched is the last one, and the result says so. -/
theorem Paging.error_iff (h : Paging source dryRun stats r ts res) {i : Nat} {c : ProviderError}
    (hc : (pageAnswers ts)[i]? = some (.error c)) :
    i + 1 = (pageRequests ts).length ∧
      ∃ q, (pageRequests ts)[i]? = some q ∧ res.2 = some ⟨q.offset, c⟩ := by
  induction h generalizing i with
  | failed stats r e =>
    cases i with
    | zero =>
      cases hc
      exact ⟨rfl, r, rfl, rfl⟩
    | succ i => cases hc
  | stopped hall hstop =>
    rw [pageAnswers_page (not_asked_processAll hall),
      pageAnswers_of_not_asked (not_asked_of_quiet hstop.quiet)] at hc
    cases i with
    | zero => cases hc
    | succ i => cases hc
  | next hall hmore hnext _ ih =>
    rw [pageAnswers_page (not_asked_processAll hall)] at hc
    rw [pageRequests_page (not_asked_processAll hall)]
    cases i with
    | zero => cases hc
    | succ i =>
      obtain ⟨hlast, q, hq, hres⟩ := ih hc
      exact ⟨congrArg (· + 1) hlast, q, hq, hres⟩

theorem Paging.error_mem (h : Paging source dryRun stats r ts res) {e : ImportError}
    (he : res.2 = some e) : .error e.cause ∈ pageAnswers ts := by
  induction h with
  | failed stats r c =>
    cases he
    exact List.mem_cons_self
  | stopped hall hstop => cases he
  | next hall hmore hnext _ ih =>
    rw [pageAnswers_page (not_asked_processAll hall)]
    exact List.mem_cons_of_mem _ (ih he)

/-! ## Pauses -/

section

variable {us : List ImportTurn} {page : AlertPage} {as : List Alert} {e : Event}

theorem paces_append (ts us : List ImportTurn) : paces (ts ++ us) = paces ts ++ paces us :=
  List.filterMap_append

theorem pauses_append (ts us : List ImportTurn) : pauses (ts ++ us) = pauses ts + pauses us :=
  List.countP_append

theorem paces_processAll {stats' : ImportStats} (h : (processAll dryRun stats as).Ends ts stats') :
    paces ts = [] := by
  refine List.filterMap_eq_nil_iff.mpr fun t ht => ?_
  have hwork := (onlyWorks_processAll stats as).of_leads h t ht
  obtain ⟨c, reply⟩ := t
  cases c with
  | ask q => cases hwork
  | pause => cases hwork
  | _ => rfl

theorem pauses_processAll {stats' : ImportStats} (h : (processAll dryRun stats as).Ends ts stats') :
    pauses ts = 0 := by
  refine List.countP_eq_zero.mpr fun t ht => ?_
  have hwork := (onlyWorks_processAll stats as).of_leads h t ht
  obtain ⟨c, reply⟩ := t
  cases c with
  | pause => cases hwork
  | _ => exact Bool.false_ne_true

/-- There is one pause between any two requests, and there are no others. -/
theorem Paging.paces_eq (h : Paging source dryRun stats r ts res) :
    paces ts = ((pageRequests ts).map .fetch).intersperse .pause := by
  induction h with
  | failed stats r e => rfl
  | @stopped stats stats' r page ts notes hall hstop =>
    have hnotes : paces notes = [] := by
      cases hstop <;> rfl
    rw [pageRequests_page (not_asked_processAll hall),
      pageRequests_of_not_asked (not_asked_of_quiet hstop.quiet)]
    show .fetch r :: paces (ts ++ notes) = _
    rw [paces_append, paces_processAll hall, hnotes]
    rfl
  | @next stats stats' r next page ts us res hall hmore hnext hrest ih =>
    obtain ⟨rest, hrequests⟩ := hrest.exists_request
    have hpause : pageRequests (⟨.pause, ()⟩ :: us) = pageRequests us := rfl
    rw [pageRequests_page (not_asked_processAll hall), hpause]
    show .fetch r :: paces (ts ++ ⟨.pause, ()⟩ :: us) = _
    rw [paces_append, paces_processAll hall]
    show .fetch r :: .pause :: paces us = _
    rw [ih, hrequests]
    rfl

theorem Paging.pauses_add_one (h : Paging source dryRun stats r ts res) :
    pauses ts + 1 = (pageRequests ts).length := by
  induction h with
  | failed stats r e => rfl
  | @stopped stats stats' r page ts notes hall hstop =>
    have hnotes : pauses notes = 0 := by
      cases hstop <;> rfl
    rw [pageRequests_page (not_asked_processAll hall),
      pageRequests_of_not_asked (not_asked_of_quiet hstop.quiet)]
    show pauses (ts ++ notes) + 1 = 1
    rw [pauses_append, pauses_processAll hall, hnotes]
  | @next stats stats' r next page ts us res hall hmore hnext _ ih =>
    rw [pageRequests_page (not_asked_processAll hall)]
    show pauses (ts ++ ⟨.pause, ()⟩ :: us) + 1 = (pageRequests us).length + 1
    rw [pauses_append, pauses_processAll hall, Nat.zero_add]
    exact congrArg (· + 1) ((List.countP_cons_of_pos rfl).trans ih)

end

/-- A run ends without an error exactly after a page that no page can follow. -/
theorem Paging.complete_iff (h : Paging source dryRun stats r ts res) :
    res.2 = none ↔ ∃ q page, (pageRequests ts).getLast? = some q ∧
      (pageAnswers ts).getLast? = some (.ok page) ∧ q.EndsWith page := by
  have hpos := h.length_pos
  have hlength := h.length_pageAnswers
  have hlast : (pageRequests ts).length - 1 + 1 = (pageRequests ts).length :=
    Nat.sub_add_cancel hpos
  rw [List.getLast?_eq_getElem?, List.getLast?_eq_getElem?, hlength]
  obtain ⟨q, hq⟩ : ∃ q, (pageRequests ts)[(pageRequests ts).length - 1]? = some q :=
    ⟨_, List.getElem?_eq_getElem (by omega)⟩
  obtain ⟨answer, hanswer⟩ : ∃ a, (pageAnswers ts)[(pageRequests ts).length - 1]? = some a :=
    ⟨_, List.getElem?_eq_getElem (by omega)⟩
  constructor
  · intro hnone
    cases answer with
    | error c =>
      obtain ⟨-, q', -, hsome⟩ := h.error_iff hanswer
      cases hnone.symm.trans hsome
    | ok page => exact ⟨q, page, hq, hanswer, (h.last_iff hq hanswer).mp hlast⟩
  · rintro ⟨q', page, -, hpage, -⟩
    cases hres : res.2 with
    | none => rfl
    | some e =>
      obtain ⟨i, hi⟩ := List.mem_iff_getElem?.mp (h.error_mem hres)
      obtain ⟨hplace, -⟩ := h.error_iff hi
      obtain rfl : i = (pageRequests ts).length - 1 := by omega
      cases hi.symm.trans hpage

theorem Paging.failed_iff (h : Paging source dryRun stats r ts res) :
    res.2.isSome = true ↔ ∃ c, .error c ∈ pageAnswers ts := by
  constructor
  · intro hsome
    obtain ⟨e, he⟩ := Option.isSome_iff_exists.mp hsome
    exact ⟨e.cause, h.error_mem he⟩
  · rintro ⟨c, hc⟩
    obtain ⟨i, hi⟩ := List.mem_iff_getElem?.mp hc
    obtain ⟨-, q, -, hres⟩ := h.error_iff hi
    exact Option.isSome_iff_exists.mpr ⟨_, hres⟩

end Importer

/-! ## Runs -/

/-- Whatever the service, the store and the clock answer, a run over pages comes to its end. It asks for at
most as many pages as there are offsets in steps of the limit, one after the other, each with all else
that was asked for; between any two requests it pauses once, and nowhere else. It ends with an error
exactly if a page cannot be fetched, which is then the last one, and without an error exactly after a page
that no page can follow. The alerts of all pages that arrived have been taken in by then, each once and in
order. -/
theorem fetches_bounded {σ : Type} (handler : Handler importing σ) (y : σ) (source : Source)
    (dryRun : Bool) (stats : ImportStats) (r : FetchRequest) :
    let run := Program.runOf handler (Importer.backfill source dryRun stats r) y
    (pageRequests run.turns).length ≤ 1 + (2 ^ 32 - 1 - r.offset.toNat) / r.effectiveLimit.toNat ∧
    (∀ i q, (pageRequests run.turns)[i]? = some q →
      q.offset.toNat = r.offset.toNat + i * r.effectiveLimit.toNat ∧
      q = { r with limit := r.effectiveLimit, offset := q.offset }) ∧
    paces run.turns = ((pageRequests run.turns).map .fetch).intersperse .pause ∧
    pauses run.turns + 1 = (pageRequests run.turns).length ∧
    (pageAnswers run.turns).length = (pageRequests run.turns).length ∧
    (run.result.2.isSome = true ↔ ∃ c, .error c ∈ pageAnswers run.turns) ∧
    (∀ i c, (pageAnswers run.turns)[i]? = some (.error c) →
      i + 1 = (pageRequests run.turns).length) ∧
    (run.result.2 = none ↔ ∃ q page, (pageRequests run.turns).getLast? = some q ∧
      (pageAnswers run.turns).getLast? = some (.ok page) ∧ q.EndsWith page) ∧
    (∀ i q page, (pageRequests run.turns)[i]? = some q →
      (pageAnswers run.turns)[i]? = some (.ok page) → q.EndsWith page →
      i + 1 = (pageRequests run.turns).length) ∧
    Importer.TakingAll dryRun (stats.fetched (fetchedAlerts run.turns).length)
      (fetchedAlerts run.turns) (work run.turns) run.result.1 := by
  intro run
  have hpaging := Importer.ends_backfill_iff.mp run.ends
  refine ⟨hpaging.length_le r.effectiveLimit_ne_zero, fun i q hq => ?_, hpaging.paces_eq,
    hpaging.pauses_add_one, hpaging.length_pageAnswers, hpaging.failed_iff, fun i c hc => ?_,
    hpaging.complete_iff, fun i q page hq hpage hends => ?_, hpaging.takingAll⟩
  · exact hpaging.request_eq hq
  · exact (hpaging.error_iff hc).1
  · exact (hpaging.last_iff hq hpage).mpr hends

end OutageLedger
