import OutageLedger.Text.Decimal
import OutageLedger.Text.Hex
import OutageLedger.Yaml.Position

/-
  The texts of YAML: plain, in quotes, and in blocks. Within plain and quoted texts a line end counts
  as a space and further line ends stand for themselves.
-/

namespace OutageLedger.Yaml

open Text

/-- A text that was read, and what follows it. -/
structure Scalar where
  text : List Char
  position : Position
  rest : List Char
  /-- A line ended before what follows. -/
  endedLine : Bool

/-! ## Folding lines -/

/-- A text under way, and what stands after it. -/
structure Fold where
  /-- What stands, in reverse. -/
  text : List Char
  /-- Blanks after it, in reverse. -/
  blanks : List Char
  /-- A line has ended since. -/
  ended : Bool
  /-- The first of the line ends. -/
  first : List Char
  /-- The further ones, in reverse. -/
  more : List Char

namespace Fold

def empty : Fold :=
  ⟨[], [], false, [], []⟩

/-- Takes in what stands after the text: blanks as they are, line ends folded. -/
def join (f : Fold) : Fold :=
  let pending :=
    if f.ended then
      if f.first = ['\n'] then (if f.more.isEmpty then [' '] else f.more) else f.more ++ f.first
    else f.blanks
  ⟨pending ++ f.text, [], false, [], []⟩

def push (f : Fold) (c : Char) : Fold :=
  let f := f.join
  { f with text := c :: f.text }

/-- Blanks at the start of a line do not count. -/
def blank (f : Fold) (c : Char) : Fold :=
  if f.ended then f else { f with blanks := c :: f.blanks }

def lineEnd (f : Fold) (c : Char) : Fold :=
  if f.ended then { f with more := c :: f.more }
  else { f with blanks := [], ended := true, first := [c] }

/-- A line end that does not count. -/
def escapedEnd (f : Fold) : Fold :=
  { f.join with ended := true }

end Fold

/-! ## Plain texts -/

def isFlowMark (c : Char) : Bool :=
  c == ',' || c == '[' || c == ']' || c == '\x7b' || c == '\x7d'

/-- Reads on in a plain text; lines after the first begin at `indent` at least. -/
def plainFrom (flow : Bool) (indent : Nat) : Fold → Position → List Char → Option Scalar
  | f, p, [] => some ⟨f.text.reverse, p, [], f.ended⟩
  | f, p, c :: cs =>
    let stop := some ⟨f.text.reverse, p, c :: cs, f.ended⟩
    if isBreak c then plainFrom flow indent (f.lineEnd c) (p.after c) cs
    else if isBlank c then
      if f.ended && p.column < indent && c == '\t' then none
      else plainFrom flow indent (f.blank c) (p.after c) cs
    else if f.ended && !flow && p.column < indent then stop
    else if p.column == 0 && startsDocumentMark (c :: cs) then stop
    else if c == '#' && (f.ended || !f.blanks.isEmpty) then stop
    else if flow && c == ':' && cs.head?.any (fun d => isFlowMark d || d == '?') then none
    else if (c == ':' && endsWord cs) || (flow && isFlowMark c) then stop
    else plainFrom flow indent (f.push c) (p.after c) cs

/-! ## Quoted texts -/

/-- The characters that a backslash with a letter stands for. -/
def escapes : List (Char × Char) :=
  [('0', '\x00'), ('a', '\x07'), ('b', '\x08'), ('t', '\t'), ('\t', '\t'), ('n', '\n'),
    ('v', '\x0b'), ('f', '\x0c'), ('r', '\r'), ('e', '\x1b'), (' ', ' '), ('"', '"'), ('/', '/'),
    ('\\', '\\'), ('N', '\u0085'), ('_', '\u00a0'), ('L', '\u2028'), ('P', '\u2029')]

/-- How many digits follow a backslash with a letter that announces a code point. -/
def codeLengths : List (Char × Nat) :=
  [('x', 2), ('u', 4), ('U', 8)]

/-- The character that a backslash stands for, and how many characters after the backslash it takes. -/
def escape? : List Char → Option (Char × Nat)
  | [] => none
  | c :: cs =>
    match codeLengths.lookup c with
    | none => (escapes.lookup c).map (·, 1)
    | some n => do
      let code ← if (cs.take n).length = n then hexValue? (cs.take n) else none
      if code.isValidChar then pure (Char.ofNat code, n + 1) else none

/-- Reads on in a text in single quotes. -/
def singleFrom : Fold → Position → List Char → Option Scalar
  | _, _, [] => none
  | f, p, c :: cs =>
    if p.column == 0 && startsDocumentMark (c :: cs) then none
    else if isBreak c then singleFrom (f.lineEnd c) (p.after c) cs
    else if isBlank c then singleFrom (f.blank c) (p.after c) cs
    else if c == '\'' then
      match cs with
      | '\'' :: cs => singleFrom (f.push c) ((p.after c).after c) cs
      | _ => some ⟨f.join.text.reverse, p.after c, cs, false⟩
    else singleFrom (f.push c) (p.after c) cs

/-- Reads on in a text in double quotes. -/
def doubleFrom (f : Fold) (p : Position) (cs : List Char) : Option Scalar :=
  match cs with
  | [] => none
  | c :: cs =>
    if p.column == 0 && startsDocumentMark (c :: cs) then none
    else if isBreak c then doubleFrom (f.lineEnd c) (p.after c) cs
    else if isBlank c then doubleFrom (f.blank c) (p.after c) cs
    else if c == '"' then some ⟨f.join.text.reverse, p.after c, cs, false⟩
    else if c == '\\' then
      if cs.head?.any isBreak then
        doubleFrom f.escapedEnd (p.afterAll (c :: cs.take 1)) (cs.drop 1)
      else
        match escape? cs with
        | none => none
        | some (d, used) => doubleFrom (f.push d) (p.afterAll (c :: cs.take used)) (cs.drop used)
    else doubleFrom (f.push c) (p.after c) cs
termination_by cs.length
decreasing_by all_goals simp only [List.length_cons, List.length_drop]; omega

/-! ## Blocks -/

/-- What becomes of the line ends at the end of a block. -/
inductive Chomping
  | clip
  | strip
  | keep
  deriving DecidableEq, Repr

/-- What the first line of a block says. -/
structure BlockHeader where
  chomping : Chomping
  /-- How far the block is indented, if that is said. -/
  indentation : Option Nat

def chomping? (c : Char) : Option Chomping :=
  if c = '+' then some .keep else if c = '-' then some .strip else none

/-- The header after `|` or `>`, and how many characters it takes; its indentation is not zero. -/
def blockHeader? (cs : List Char) : Option (BlockHeader × Nat) :=
  let indentation (c : Char) : Option Nat :=
    if isDigit c ∧ c ≠ '0' then some (digitValue c) else none
  match cs with
  | c :: cs =>
    match chomping? c with
    | some chomping =>
      match cs with
      | d :: _ =>
        if isDigit d then (indentation d).map fun n => (⟨chomping, some n⟩, 2)
        else some (⟨chomping, none⟩, 1)
      | [] => some (⟨chomping, none⟩, 1)
    | none =>
      if isDigit c then
        (indentation c).map fun n =>
          match cs.head? >>= chomping? with
          | some chomping => (⟨chomping, some n⟩, 2)
          | none => (⟨.clip, some n⟩, 1)
      else some (⟨.clip, none⟩, 0)
  | [] => some (⟨.clip, none⟩, 0)

/-- The blank lines before a line of a block and the indentation of that line. -/
structure Leading where
  /-- Their line ends. -/
  breaks : List Char
  used : Nat
  column : Nat
  /-- The largest indentation met. -/
  widest : Nat

/-- Passes over blank lines and indentation, up to `indent` or, where that is not known, to the first
character of a line. A tab is no indentation. -/
def leadingFrom (indent : Option Nat) (l : Leading) : List Char → Option Leading
  | [] => some l
  | c :: cs =>
    let inside := indent.all (l.column < ·)
    if inside && c == ' ' then
      let column := l.column + 1
      leadingFrom indent { l with used := l.used + 1, column, widest := max l.widest column } cs
    else if inside && c == '\t' then none
    else if isBreak c then
      leadingFrom indent { l with breaks := l.breaks ++ [c], used := l.used + 1, column := 0 } cs
    else some l

/-- A block under way. -/
structure Block where
  text : List Char
  /-- The end of the last line. -/
  lastBreak : List Char
  /-- The ends of the blank lines after it. -/
  breaks : List Char
  /-- The last line began with a blank. -/
  wasIndented : Bool

/-- A further line: its end is folded to a space between two lines that begin with no blank. -/
def Block.line (b : Block) (literal : Bool) (line lineEnd : List Char) : Block :=
  let indented := line.head?.any isBlank
  let folds := !literal && b.lastBreak == ['\n'] && !b.wasIndented && !indented
  let between := if folds then (if b.breaks.isEmpty then [' '] else []) else b.lastBreak
  ⟨b.text ++ between ++ b.breaks ++ line, lineEnd, [], indented⟩

/-- Reads the lines of a block, the first of which begins at `column`. -/
def linesFrom (literal : Bool) (indent : Nat) (b : Block) (column : Nat) (p : Position)
    (cs : List Char) : Option (Block × Position × List Char) :=
  match cs with
  | [] => some (b, p, [])
  | c :: rest =>
    if column = indent then
      let line := (c :: rest).takeWhile fun c => !isBreak c
      let lineEnd := ((c :: rest).drop line.length).take 1
      let following := (c :: rest).drop (line.length + lineEnd.length)
      match leadingFrom (some indent) ⟨[], 0, 0, 0⟩ following with
      | none => none
      | some l =>
        let used := line.length + lineEnd.length + l.used
        linesFrom literal indent { b.line literal line lineEnd with breaks := l.breaks }
          (if lineEnd.isEmpty then indent + 1 else l.column)
          (p.afterAll ((c :: rest).take used)) ((c :: rest).drop (max 1 used))
    else some (b, p, c :: rest)
termination_by cs.length
decreasing_by simp only [List.length_drop, List.length_cons]; omega

/-- Reads a block after its `|` or `>`, within a collection indented to `parent`. -/
def blockScalar (literal : Bool) (parent : Option Nat) (p : Position) (cs : List Char) :
    Option Scalar := do
  let (header, used) ← blockHeader? cs
  let blanks := (cs.drop used).takeWhile isBlank
  let afterBlanks := (cs.drop used).drop blanks.length
  let comment := if afterBlanks.head? = some '#' then afterBlanks.takeWhile (!isBreak ·) else []
  let afterComment := afterBlanks.drop comment.length
  if afterComment.head?.any fun c => !isBreak c then none
  else
    let used := used + blanks.length + comment.length + min 1 afterComment.length
    let body := cs.drop used
    let p := p.afterAll (cs.take used)
    let given := header.indentation.map fun n => parent.getD 0 + n
    let l ← leadingFrom given ⟨[], 0, 0, 0⟩ body
    let indent := given.getD (max (max l.widest (match parent with
      | some n => n + 1
      | none => 0)) 1)
    let (b, p, rest) ← linesFrom literal indent ⟨[], [], l.breaks, false⟩ l.column
      (p.afterAll (body.take l.used)) (body.drop l.used)
    let text := match header.chomping with
      | .strip => b.text
      | .clip => b.text ++ b.lastBreak
      | .keep => b.text ++ b.lastBreak ++ b.breaks
    pure ⟨text, p, rest, true⟩

end OutageLedger.Yaml
