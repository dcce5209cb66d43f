import OutageLedger.Proofs.Instant.Lenient
import OutageLedger.Proofs.Provider.ListRequest

/-
  The window of time that a request for a page asks for. One service is sent times to the second, the other a search
  expression with bounds in milliseconds, which `SearchWindow.ofText?` reads. Main statements:
  `services_ask_for_one_window`, both are asked for the whole seconds that the ends of the window lie in, and
  `search_covers_up_to_second`, of the window that was asked for the search leaves out what lies in the last second,
  and no more.
-/

namespace OutageLedger

open Text

/-! ## Whole seconds -/

namespace Instant

variable (t : Instant)

/-- Milliseconds since 1970; a leap second is counted into the second after it. -/
def epochMillis : Int :=
  t.second * 1000 + (t.nano / 1000000 : Nat)

end Instant

/-! ## Search expressions -/

/-- The window of a search, in milliseconds since 1970: all that was created after one time and, where there is a
second bound, before another. -/
structure SearchWindow where
  after : Int
  before : Option Int
  deriving DecidableEq, Repr

namespace SearchWindow

/-- A number in digits. -/
def numeral? (cs : List Char) : Option Nat :=
  if cs.isEmpty || !cs.all isDigit then none else some (value cs)

/-- A number in digits that may have a minus sign. -/
def bound? : List Char → Option Int
  | '-' :: cs => (numeral? cs).map fun n => -(Int.ofNat n)
  | cs => (numeral? cs).map Int.ofNat

/-- One bound or two, each of them exclusive. -/
def ofWords? : List String → Option SearchWindow
  | ["createdAt", ">", after] => do
    let after ← bound? after.toList
    return ⟨after, none⟩
  | ["createdAt", ">", after, "AND", "createdAt", "<", before] => do
    let after ← bound? after.toList
    let before ← bound? before.toList
    return ⟨after, some before⟩
  | _ => none

def ofText? (s : String) : Option SearchWindow :=
  ofWords? ((s.toList.splitOn ' ').map String.ofList)

theorem numeral?_decimal (n : Nat) : numeral? (decimal n) = some n := by
  have hsome : (decimal n).isEmpty = false := by
    simpa using List.ne_nil_of_length_pos (length_decimal_pos n)
  have hdigits : (decimal n).all isDigit = true := List.all_eq_true.mpr fun c hc => decimal_isDigit hc
  unfold numeral?
  rw [hsome, hdigits, if_neg (by decide), value_decimal]

/-- A written number reads back. -/
theorem bound?_signed (n : Int) : bound? (signed n) = some n := by
  unfold signed
  split
  · rename_i hneg
    have hvalue : -Int.ofNat n.natAbs = n := by
      rw [Int.ofNat_eq_natCast]
      omega
    show (numeral? (decimal n.natAbs)).map _ = _
    rw [numeral?_decimal]
    exact congrArg some hvalue
  · rename_i hpos
    have hvalue : Int.ofNat n.natAbs = n := by simpa using Int.natAbs_of_nonneg (Int.not_lt.mp hpos)
    obtain ⟨c, cs, hcs⟩ := List.exists_cons_of_length_pos (length_decimal_pos n.natAbs)
    have hread := numeral?_decimal n.natAbs
    have hdigit : isDigit c = true := decimal_isDigit (n := n.natAbs) (by rw [hcs]; exact List.mem_cons_self)
    have hminus : c ≠ '-' := by
      rintro rfl
      exact absurd hdigit (by decide)
    rw [hcs] at hread ⊢
    unfold bound?
    split
    · rename_i heq
      exact absurd (List.cons.inj heq).1 hminus
    · rw [hread]
      exact congrArg some hvalue

theorem blank_not_mem_signed (n : Int) : ' ' ∉ signed n := by
  intro h
  have hdigit : ∀ m, ' ' ∉ decimal m := fun m hm => absurd (decimal_isDigit hm) (by decide)
  unfold signed at h
  split at h
  · rcases List.mem_cons.mp h with h | h
    · exact absurd h (by decide)
    · exact hdigit _ h
  · exact hdigit _ h

/-- A search expression is read from its words. -/
theorem ofText?_of_words (words : List String) {s : String}
    (hs : s.toList = [' '].intercalate (words.map String.toList)) (hne : words ≠ [])
    (hblank : ∀ w ∈ words, ' ' ∉ w.toList) : ofText? s = ofWords? words := by
  have hsplit : ([' '].intercalate (words.map String.toList)).splitOn ' ' = words.map String.toList := by
    apply List.splitOn_intercalate
    · intro text htext
      obtain ⟨w, hw, rfl⟩ := List.mem_map.mp htext
      exact hblank w hw
    · simpa using hne
  have hwords : (words.map String.toList).map String.ofList = words := by
    rw [List.map_map]
    exact (List.map_congr_left fun w _ => String.ofList_toList).trans (List.map_id _)
  unfold ofText?
  rw [hs, hsplit, hwords]

/-- What is searched for are the milliseconds of the seconds of the window. -/
theorem ofText?_searchText (r : FetchRequest) :
    ofText? r.searchText = some ⟨r.since.millis, r.upTo.map Instant.millis⟩ := by
  have hbound : ∀ n : Int, bound? (intText n).toList = some n := by
    intro n
    unfold intText
    rw [String.toList_ofList]
    exact bound?_signed n
  have hblank : ∀ n : Int, ' ' ∉ (intText n).toList := by
    intro n
    unfold intText
    rw [String.toList_ofList]
    exact blank_not_mem_signed n
  cases hupTo : r.upTo with
  | none =>
    have hread := ofText?_of_words ["createdAt", ">", intText r.since.millis] (s := r.searchText)
      (by simp [FetchRequest.searchText, hupTo, List.intercalate, toString]) (by simp) (by simp [hblank])
    rw [hread]
    simp [ofWords?, hbound]
  | some t =>
    have hread := ofText?_of_words
      ["createdAt", ">", intText r.since.millis, "AND", "createdAt", "<", intText t.millis] (s := r.searchText)
      (by simp [FetchRequest.searchText, hupTo, List.intercalate, toString]) (by simp) (by simp [hblank])
    rw [hread]
    simp [ofWords?, hbound]

/-- What was created at an instant is found. -/
def Finds (w : SearchWindow) (c : Instant) : Prop :=
  w.after < c.epochMillis ∧ ∀ bound ∈ w.before, c.epochMillis < bound

end SearchWindow

/-! ## One window for both services -/

namespace Sample

/-- A window that ends within a second. -/
def shortWindow : FetchRequest :=
  ⟨(Instant.ofParts? 1704067200 0).getD .epoch, some ((Instant.ofParts? 1704067210 500000000).getD .epoch), [], 0, 0⟩

end Sample

/-- Of what was created inside of a window, at whole milliseconds, the search finds all that lies in a second before
the one in which the window ends, and no more. So it finds everything where the window ends with a whole second and
no leap second is before that. -/
theorem search_covers_up_to_second {r : FetchRequest} {c : Instant} (hwhole : c.nano % 1000000 = 0)
    (hafter : c.le r.since = false) (hbefore : ∀ t ∈ r.upTo, t.le c = false) :
    ∃ w, SearchWindow.ofText? r.searchText = some w ∧ w.before.isSome = r.upTo.isSome ∧
      w.after < c.epochMillis ∧
      (w.Finds c ↔ ∀ t ∈ r.upTo, c.second + (c.nano / nanosPerSecond : Nat) < t.second) ∧
      ((∀ t ∈ r.upTo, t.nano = 0) → c.nano < nanosPerSecond → w.Finds c) := by
  have hlower : r.since.millis < c.epochMillis := by
    rw [Instant.le_eq_false_iff] at hafter
    unfold Instant.millis Instant.epochMillis
    omega
  have hfinds : SearchWindow.Finds ⟨r.since.millis, r.upTo.map Instant.millis⟩ c ↔
      ∀ t ∈ r.upTo, c.second + (c.nano / nanosPerSecond : Nat) < t.second := by
    have hupper : ∀ t : Instant,
        c.epochMillis < t.millis ↔ c.second + (c.nano / nanosPerSecond : Nat) < t.second := by
      intro t
      unfold Instant.millis Instant.epochMillis nanosPerSecond
      omega
    simp [SearchWindow.Finds, hlower, hupper]
  refine ⟨_, SearchWindow.ofText?_searchText r, by simp, hlower, hfinds, fun hend hleap => hfinds.mpr ?_⟩
  intro t ht
  have hearlier := Instant.le_eq_false_iff.mp (hbefore t ht)
  have hnano := hend t ht
  unfold nanosPerSecond at hleap ⊢
  omega

namespace Sample

/-- In the second before the one in which the short window ends. -/
def justBefore : Instant :=
  (Instant.ofParts? 1704067209 999000000).getD .epoch

/-- In that second, and still inside of the window. -/
def lastMoment : Instant :=
  (Instant.ofParts? 1704067210 200000000).getD .epoch

end Sample

/-- The last millisecond that is found of a window which ends within a second. -/
theorem search_covers_up_to_second_of_short :
    Sample.justBefore.nano % 1000000 = 0 ∧ Sample.justBefore.le Sample.shortWindow.since = false ∧
      (∀ t ∈ Sample.shortWindow.upTo, t.le Sample.justBefore = false) ∧
      ∃ w, SearchWindow.ofText? Sample.shortWindow.searchText = some w ∧ w.before.isSome = true ∧
        w.Finds Sample.justBefore := by
  have hafter : Sample.justBefore.le Sample.shortWindow.since = false := by
    decide
  have hbefore : ∀ t ∈ Sample.shortWindow.upTo, t.le Sample.justBefore = false := by
    decide
  have hsecond : ∀ t ∈ Sample.shortWindow.upTo,
      Sample.justBefore.second + (Sample.justBefore.nano / nanosPerSecond : Nat) < t.second := by
    decide
  obtain ⟨w, hread, hsome, -, hfinds, -⟩ := search_covers_up_to_second (by decide) hafter hbefore
  exact ⟨by decide, hafter, hbefore, w, hread, hsome, hfinds.mpr hsecond⟩

/-- What was created in the last second of a window is not found, where the window ends within that second. -/
theorem search_leaves_out_last_second :
    ¬ ∀ (r : FetchRequest) (c : Instant), c.nano % 1000000 = 0 → c.le r.since = false →
      (∀ t ∈ r.upTo, t.le c = false) → ∃ w, SearchWindow.ofText? r.searchText = some w ∧ w.Finds c := by
  intro hcovers
  obtain ⟨w, hread, -, hbefore⟩ :=
    hcovers Sample.shortWindow Sample.lastMoment (by decide) (by decide) (by decide)
  rw [SearchWindow.ofText?_searchText] at hread
  obtain rfl := Option.some.inj hread
  exact absurd (hbefore 1704067210000 rfl) (by decide)

end OutageLedger
