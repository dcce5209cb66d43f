import OutageLedger.Text.Blank
import OutageLedger.Text.Hex

/-
  Tables of code points: runs in rising order, each with a value. A table is written as a row of
  words, each the first and the last code point of a run in hexadecimal, and after a colon its value;
  it is searched by halving. What a search finds is a run of the table that holds the code point
  (`find?_holds`).
-/

namespace OutageLedger.Text

/-- A run of code points, and what is said of each of them. -/
structure CodeRun (α : Type) where
  first : Nat
  last : Nat
  value : α

def CodeRun.Holds {α : Type} (r : CodeRun α) (n : Nat) : Prop :=
  r.first ≤ n ∧ n ≤ r.last

structure CodeTable (α : Type) where
  runs : Array (CodeRun α)

/-- The words between blanks. -/
def wordsOf (cs : List Char) : List (List Char) :=
  (cs.splitOnP isBlank).filter (!·.isEmpty)

/-- The part of a word before a mark, and what follows the mark. -/
def splitMark (mark : Char) (cs : List Char) : List Char × List Char :=
  (cs.takeWhile (· != mark), (cs.dropWhile (· != mark)).drop 1)

namespace CodeTable

variable {α : Type}

/-- The run that a word stands for. -/
def run? (value? : List Char → Option α) (word : List Char) : Option (CodeRun α) := do
  let (bounds, said) := splitMark ':' word
  let (first, last) := splitMark '-' bounds
  pure ⟨← hexValue? first, ← hexValue? (if last.isEmpty then first else last), ← value? said⟩

/-- The table that a row of words stands for. -/
def ofText (value? : List Char → Option α) (s : String) : CodeTable α :=
  ⟨((wordsOf s.toList).filterMap (run? value?)).toArray⟩

/-- The run that holds a code point, among those from one place up to another. -/
def search (runs : Array (CodeRun α)) (n low high : Nat) : Option (CodeRun α) :=
  if low < high then
    match runs[(low + high) / 2]? with
    | none => none
    | some r =>
      if n < r.first then search runs n low ((low + high) / 2)
      else if r.last < n then search runs n ((low + high) / 2 + 1) high
      else some r
  else none
termination_by high - low

/-- The run that holds a code point. -/
def find? (t : CodeTable α) (n : Nat) : Option (CodeRun α) :=
  search t.runs n 0 t.runs.size

/-- What a table says of a character. -/
def get? (t : CodeTable α) (c : Char) : Option α :=
  (t.find? c.toNat).map CodeRun.value

/-! ## What is found is in the table -/

theorem search_holds {runs : Array (CodeRun α)} {n low high : Nat} {r : CodeRun α}
    (h : search runs n low high = some r) : r ∈ runs ∧ r.Holds n := by
  fun_induction search runs n low high with
  | case1 => cases h
  | case2 _ _ _ _ _ _ ih => exact ih h
  | case3 _ _ _ _ _ _ _ ih => exact ih h
  | case4 low high _ q hq hn hn' =>
    cases h
    exact ⟨Array.mem_of_getElem? hq, by omega, by omega⟩
  | case5 => cases h

theorem find?_holds {t : CodeTable α} {n : Nat} {r : CodeRun α} (h : t.find? n = some r) :
    r ∈ t.runs ∧ r.Holds n :=
  search_holds h

end CodeTable

/-- A set of code points. -/
abbrev CodeSet := CodeTable Unit

def CodeSet.ofText (s : String) : CodeSet :=
  CodeTable.ofText (fun _ => some ()) s

def CodeSet.contains (t : CodeSet) (c : Char) : Bool :=
  (t.find? c.toNat).isSome

end OutageLedger.Text
