import OutageLedger.Import.Call
import OutageLedger.Proofs.Program.Turns
import OutageLedger.Proofs.Store.Ledger

/-
  The turns of importers: what they show of the service, the ids drawn and the times read, and when a
  store can have given the replies in them. A store either performs every call (`Store.Performs`) or may
  also refuse one for reasons of its own, which then has no effect (`Store.MayRefuse`).
-/

namespace OutageLedger

/-- A call of an importer with the reply to it. -/
abbrev ImportTurn :=
  Program.Turn importing

namespace ImportTurn

/-- The id that is drawn. -/
def drawn? : ImportTurn → Option Uuid
  | ⟨.newId, u⟩ => some u
  | _ => none

/-- The time that is read off the clock. -/
def time? : ImportTurn → Option Instant
  | ⟨.now, time⟩ => some time
  | _ => none

/-- The alerts that the service sends. -/
def alerts : ImportTurn → List Alert
  | ⟨.ask (.page _), .ok page⟩ => AlertPage.alerts page
  | ⟨.ask (.alert _), .ok a⟩ => [a]
  | _ => []

/-- What the service answers when a page is asked for. -/
def pageAnswer? : ImportTurn → Option (Except ProviderError AlertPage)
  | ⟨.ask (.page _), answer⟩ => some answer
  | _ => none

/-- The page that is asked for. -/
def pageRequest? : ImportTurn → Option FetchRequest
  | ⟨.ask (.page r), _⟩ => some r
  | _ => none

/-- The turn is one with the service. -/
def isAsked : ImportTurn → Bool
  | ⟨.ask _, _⟩ => true
  | _ => false

/-- The turn is one with neither the service nor the store, and draws no id. -/
def isQuiet : ImportTurn → Bool
  | ⟨.note _, _⟩ | ⟨.pause, _⟩ | ⟨.now, _⟩ => true
  | _ => false

end ImportTurn

/-- The ids drawn, in order. -/
def drawnIds (ts : List ImportTurn) : List Uuid :=
  ts.filterMap ImportTurn.drawn?

/-- The times read off the clock, in order. -/
def clockTimes (ts : List ImportTurn) : List Instant :=
  ts.filterMap ImportTurn.time?

/-- The alerts that the service has sent, in order. -/
def fetchedAlerts (ts : List ImportTurn) : List Alert :=
  ts.flatMap ImportTurn.alerts

/-- What the service has answered to the requests for pages, in order. -/
def pageAnswers (ts : List ImportTurn) : List (Except ProviderError AlertPage) :=
  ts.filterMap ImportTurn.pageAnswer?

/-- The requests for pages, in order. -/
def pageRequests (ts : List ImportTurn) : List FetchRequest :=
  ts.filterMap ImportTurn.pageRequest?

theorem drawnIds_append (ts us : List ImportTurn) :
    drawnIds (ts ++ us) = drawnIds ts ++ drawnIds us :=
  List.filterMap_append

theorem clockTimes_append (ts us : List ImportTurn) :
    clockTimes (ts ++ us) = clockTimes ts ++ clockTimes us :=
  List.filterMap_append

theorem fetchedAlerts_append (ts us : List ImportTurn) :
    fetchedAlerts (ts ++ us) = fetchedAlerts ts ++ fetchedAlerts us :=
  List.flatMap_append

theorem pageAnswers_append (ts us : List ImportTurn) :
    pageAnswers (ts ++ us) = pageAnswers ts ++ pageAnswers us :=
  List.filterMap_append

theorem pageRequests_append (ts us : List ImportTurn) :
    pageRequests (ts ++ us) = pageRequests ts ++ pageRequests us :=
  List.filterMap_append

theorem fetchedAlerts_of_not_asked {ts : List ImportTurn} (h : ∀ t ∈ ts, t.isAsked = false) :
    fetchedAlerts ts = [] := by
  refine List.flatMap_eq_nil_iff.mpr fun t ht => ?_
  obtain ⟨c, r⟩ := t
  cases c with
  | ask q => exact absurd (h _ ht) (by simp [ImportTurn.isAsked])
  | _ => rfl

theorem pageAnswers_of_not_asked {ts : List ImportTurn} (h : ∀ t ∈ ts, t.isAsked = false) :
    pageAnswers ts = [] := by
  refine List.filterMap_eq_nil_iff.mpr fun t ht => ?_
  obtain ⟨c, r⟩ := t
  cases c with
  | ask q => exact absurd (h _ ht) (by simp [ImportTurn.isAsked])
  | _ => rfl

theorem pageRequests_of_not_asked {ts : List ImportTurn} (h : ∀ t ∈ ts, t.isAsked = false) :
    pageRequests ts = [] := by
  refine List.filterMap_eq_nil_iff.mpr fun t ht => ?_
  obtain ⟨c, r⟩ := t
  cases c with
  | ask q => exact absurd (h _ ht) (by simp [ImportTurn.isAsked])
  | _ => rfl

section

variable {r : FetchRequest} {page : AlertPage} {e : Event} {ts us : List ImportTurn}

/-- The alerts of a page are those fetched before the turns after it. -/
theorem fetchedAlerts_page (h : ∀ t ∈ ts, t.isAsked = false) :
    fetchedAlerts (⟨.ask (.page r), .ok page⟩ :: ⟨.note e, ()⟩ :: (ts ++ us)) =
      page.alerts ++ fetchedAlerts us := by
  show page.alerts ++ fetchedAlerts (ts ++ us) = page.alerts ++ fetchedAlerts us
  rw [fetchedAlerts_append, fetchedAlerts_of_not_asked h, List.nil_append]

theorem pageAnswers_page (h : ∀ t ∈ ts, t.isAsked = false) :
    pageAnswers (⟨.ask (.page r), .ok page⟩ :: ⟨.note e, ()⟩ :: (ts ++ us)) =
      .ok page :: pageAnswers us := by
  show .ok page :: pageAnswers (ts ++ us) = .ok page :: pageAnswers us
  rw [pageAnswers_append, pageAnswers_of_not_asked h, List.nil_append]

theorem pageRequests_page (h : ∀ t ∈ ts, t.isAsked = false) :
    pageRequests (⟨.ask (.page r), .ok page⟩ :: ⟨.note e, ()⟩ :: (ts ++ us)) =
      r :: pageRequests us := by
  show r :: pageRequests (ts ++ us) = r :: pageRequests us
  rw [pageRequests_append, pageRequests_of_not_asked h, List.nil_append]

end

theorem drawnIds_of_quiet {ts : List ImportTurn} (h : ∀ t ∈ ts, t.isQuiet = true) :
    drawnIds ts = [] := by
  refine List.filterMap_eq_nil_iff.mpr fun t ht => ?_
  obtain ⟨c, r⟩ := t
  cases c with
  | newId => exact absurd (h _ ht) (by simp [ImportTurn.isQuiet])
  | _ => rfl

theorem not_asked_of_quiet {ts : List ImportTurn} (h : ∀ t ∈ ts, t.isQuiet = true) :
    ∀ t ∈ ts, t.isAsked = false := by
  rintro ⟨c, r⟩ ht
  cases c with
  | ask q => exact absurd (h _ ht) (by simp [ImportTurn.isQuiet])
  | _ => rfl

/-! ## Stores behind the replies -/

namespace Store

/-- How a store may answer a call, and the store that is left. -/
abbrev Rule : Type :=
  (s : Store) → (c : StoreCall) → Except StoreError c.Answer → (s' : Store) → Prop

/-- The call is performed. -/
def Performs : Rule :=
  fun s c r s' => s.perform c = (r, s')

/-- The call is performed, or fails for any other reason and has no effect. -/
def MayRefuse : Rule :=
  fun s c r s' => s.perform c = (r, s') ∨ (∃ e, r = .error (.backend e)) ∧ s' = s

/-- A store can have given the replies in the turns, and is left as `s'`. -/
def Serves (rule : Rule) : Store → List ImportTurn → Store → Prop
  | s, [], s' => s' = s
  | s, ⟨.store c, r⟩ :: ts, s' => ∃ m, rule s c r m ∧ Serves rule m ts s'
  | s, _ :: ts, s' => Serves rule s ts s'

variable {rule : Rule} {s s' : Store} {ts us : List ImportTurn}

theorem serves_append_iff :
    Serves rule s (ts ++ us) s' ↔ ∃ m, Serves rule s ts m ∧ Serves rule m us s' := by
  induction ts generalizing s with
  | nil =>
    constructor
    · intro h
      exact ⟨s, rfl, h⟩
    · rintro ⟨m, rfl, h⟩
      exact h
  | cons t ts ih =>
    obtain ⟨c, r⟩ := t
    cases c with
    | store c =>
      constructor
      · rintro ⟨n, hn, h⟩
        obtain ⟨m, hm, h⟩ := ih.mp h
        exact ⟨m, ⟨n, hn, hm⟩, h⟩
      · rintro ⟨m, ⟨n, hn, hm⟩, h⟩
        exact ⟨n, hn, ih.mpr ⟨m, hm, h⟩⟩
    | _ => exact ih

theorem serves_quiet_iff (h : ∀ t ∈ ts, t.isQuiet = true) :
    Serves rule s ts s' ↔ s' = s := by
  induction ts with
  | nil => exact Iff.rfl
  | cons t ts ih =>
    have hrest := ih fun u hu => h u (List.mem_cons_of_mem t hu)
    obtain ⟨c, r⟩ := t
    cases c with
    | store c => exact absurd (h _ List.mem_cons_self) (by simp [ImportTurn.isQuiet])
    | _ => exact hrest

theorem Serves.mono {rule' : Rule} (hrule : ∀ s c r s', rule s c r s' → rule' s c r s')
    (h : Serves rule s ts s') : Serves rule' s ts s' := by
  induction ts generalizing s with
  | nil => exact h
  | cons t ts ih =>
    obtain ⟨c, r⟩ := t
    cases c with
    | store c =>
      obtain ⟨m, hm, h⟩ := h
      exact ⟨m, hrule _ _ _ _ hm, ih h⟩
    | _ => exact ih h

end Store

end OutageLedger
