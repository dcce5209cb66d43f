import OutageLedger.Yaml.Scalar
import OutageLedger.Yaml.Tag

/-
  The tokens of a YAML text. Collections in blocks begin and end where the indentation changes. A key
  is only known by the colon after it, so its token goes in front of what was read as the key.
-/

namespace OutageLedger.Yaml

open Text

inductive Token
  | versionDirective (major minor : Nat)
  | tagDirective (handle : List Char) (tagPrefix : Tag)
  | documentStart
  | documentEnd
  | blockSequenceStart
  | blockMappingStart
  | blockEnd
  | flowSequenceStart
  | flowSequenceEnd
  | flowMappingStart
  | flowMappingEnd
  | blockEntry
  | flowEntry
  | key
  | value
  | reference (name : List Char)
  | anchor (name : List Char)
  | tag (handle : List Char) (suffix : Tag)
  | scalar (plain : Bool) (text : List Char)
  deriving DecidableEq, Repr

/-- Where a key may have begun. -/
structure KeyStart where
  position : Position
  /-- How many tokens stand before it. -/
  tokens : Nat
  /-- Nothing but a key may stand there. -/
  required : Bool

/-- A text that is being cut into tokens. -/
structure Lexer where
  rest : List Char
  position : Position
  /-- The tokens so far, in reverse. -/
  tokens : List Token
  /-- The indentation of the open block collections, the innermost first. -/
  indents : List Nat
  /-- For each open flow collection, and for what is around them, where a key may have begun. -/
  keys : List (Option KeyStart)
  /-- A key may begin here. -/
  keyAllowed : Bool

namespace Lexer

def ofText (cs : List Char) : Lexer :=
  ⟨cs, .start, [], [], [none], true⟩

def inFlow (l : Lexer) : Bool :=
  2 ≤ l.keys.length

def indent? (l : Lexer) : Option Nat :=
  l.indents.head?

def emit (l : Lexer) (t : Token) : Lexer :=
  { l with tokens := t :: l.tokens }

/-- Puts a token after the first `n` tokens. -/
def insert (l : Lexer) (n : Nat) (t : Token) : Lexer :=
  let (after, before) := l.tokens.splitAt (l.tokens.length - n)
  { l with tokens := after ++ t :: before }

/-- Goes on after `n` characters. -/
def skip (l : Lexer) (n : Nat) : Lexer :=
  { l with rest := l.rest.drop n, position := l.position.afterAll (l.rest.take n) }

def allowKey (l : Lexer) (allowed : Bool) : Lexer :=
  { l with keyAllowed := allowed }

/-! ## Keys -/

def setKey (l : Lexer) (k : Option KeyStart) : Lexer :=
  { l with keys := k :: l.keys.drop 1 }

def key? (l : Lexer) : Option KeyStart :=
  l.keys.head?.join

/-- Here is no key after all. -/
def dropKey (l : Lexer) : Option Lexer :=
  match l.key? with
  | some k => if k.required then none else some (l.setKey none)
  | none => some l

/-- A key may begin here. -/
def noteKey (l : Lexer) : Option Lexer :=
  if l.keyAllowed then do
    let required := !l.inFlow && l.indent? == some l.position.column
    let l ← l.dropKey
    pure (l.setKey (some ⟨l.position, l.tokens.length, required⟩))
  else some l

/-- A key stands on one line and has at most 1024 bytes. -/
def currentKey (l : Lexer) : Option (Option KeyStart) :=
  match l.key? with
  | none => some none
  | some k =>
    if k.position.line < l.position.line || k.position.index + 1024 < l.position.index then
      if k.required then none else some none
    else some (some k)

/-! ## Indentation -/

/-- Closes the block collections that are indented further than `column`; all of them if there is no
column. -/
def unroll (l : Lexer) (column : Option Nat) : Lexer :=
  if l.inFlow then l
  else
    let closed := l.indents.takeWhile fun n => column.all (· < n)
    { l with
      indents := l.indents.drop closed.length
      tokens := List.replicate closed.length .blockEnd ++ l.tokens }

/-- Opens a block collection at a column, with its token after the first `n`. -/
def roll (l : Lexer) (column n : Nat) (t : Token) : Lexer :=
  if !l.inFlow && l.indent?.all (· < column) then
    { l.insert n t with indents := column :: l.indents }
  else l

/-! ## Between tokens -/

def isMark (c : Char) : Bool :=
  c.toNat == 0xFEFF

/-- Passes over blanks, comments and line ends. A tab does not indent a line. -/
def skipFrom (flow : Bool) : Bool → Position → List Char → Bool × Position × List Char
  | allowed, p, [] => (allowed, p, [])
  | allowed, p, c :: cs =>
    if c == ' ' || (c == '\t' && (flow || !allowed)) || (p.column == 0 && isMark c) then
      skipFrom flow allowed (p.after c) cs
    else if isBreak c then skipFrom flow (allowed || !flow) (p.after c) cs
    else (allowed, p, c :: cs)

def skipBlanks (l : Lexer) : Lexer :=
  let (keyAllowed, position, rest) := skipFrom l.inFlow l.keyAllowed l.position l.rest
  { l with keyAllowed, position, rest }

/-- Passes over a comment. -/
def skipComment (l : Lexer) : Lexer :=
  if l.rest.head? = some '#' then l.skip (l.rest.takeWhile (!isBreak ·)).length else l

/-! ## Directives, anchors and tags -/

def isWordMark (c : Char) : Bool :=
  c.isAlphanum || c == '_' || c == '-'

/-- Nothing but a comment follows on the line. -/
def endLine (l : Lexer) : Option Lexer :=
  let l := l.skip (l.rest.takeWhile isBlank).length
  let l := l.skipComment
  if l.rest.head?.all isBreak then some (l.skip 1) else none

/-- The characters of a tag; some of them only where the tag is in angle brackets. -/
def isTagMark (verbatim : Bool) (c : Char) : Bool :=
  isWordMark c || ";/?:@&=+$.!~*'()%".toList.contains c || (verbatim && ",[]".toList.contains c)

/-- The part of a tag that comes next, and how many characters it takes. -/
def tagText? (verbatim : Bool) (l : Lexer) : Option (Tag × Nat) :=
  let cs := l.rest.takeWhile (isTagMark verbatim)
  (Tag.ofText? cs).map (·, cs.length)

/-- A handle: a mark alone, two marks, or a word between two marks. -/
def handle (l : Lexer) : List Char :=
  let word := (l.rest.drop 1).takeWhile isWordMark
  match (l.rest.drop 1).drop word.length with
  | '!' :: _ => '!' :: word ++ ['!']
  | _ => '!' :: word

def versionDirective (l : Lexer) : Option Lexer := do
  let l := l.skip (l.rest.takeWhile isBlank).length
  let major := l.rest.takeWhile isDigit
  let l := l.skip major.length
  let minor := (l.rest.drop 1).takeWhile isDigit
  if major.isEmpty || 9 < major.length || l.rest.head? ≠ some '.' || minor.isEmpty ||
      9 < minor.length then none
  else ((l.skip (minor.length + 1)).emit (.versionDirective (value major) (value minor))).endLine

def tagDirective (l : Lexer) : Option Lexer := do
  let l := l.skip (l.rest.takeWhile isBlank).length
  let handle := l.handle
  let l' := l.skip handle.length
  let blanks := (l'.rest.takeWhile isBlank).length
  let l' := l'.skip blanks
  let (tagPrefix, used) ← l'.tagText? true
  let l' := l'.skip used
  if l.rest.head? = some '!' && handle.getLast? = some '!' && 0 < blanks && 0 < used &&
      endsWord l'.rest then
    (l'.emit (.tagDirective handle tagPrefix)).endLine
  else none

def directive (l : Lexer) : Option Lexer := do
  let l ← (l.unroll none).dropKey
  let l := (l.allowKey false).skip 1
  let name := l.rest.takeWhile isWordMark
  let l := l.skip name.length
  if !(l.rest.head?.all fun c => isBlank c || isBreak c) then none
  else
    match String.ofList name with
    | "YAML" => l.versionDirective
    | "TAG" => l.tagDirective
    | _ => none

def documentMark (l : Lexer) (t : Token) : Option Lexer := do
  let l ← (l.unroll none).dropKey
  pure (((l.allowKey false).skip 3).emit t)

/-- What may follow the name of an anchor. -/
def endsName (cs : List Char) : Bool :=
  endsWord cs || cs.head?.any ("?:,]\x7d%@\x60".toList.contains ·)

def anchor (l : Lexer) (make : List Char → Token) : Option Lexer := do
  let l ← l.noteKey
  let name := (l.rest.drop 1).takeWhile isWordMark
  let after := l.skip (name.length + 1)
  if name.isEmpty || !endsName after.rest then none
  else pure ((after.allowKey false).emit (make name))

/-- A tag: in angle brackets, or a handle and a suffix. A mark alone is a tag as it is. -/
def tag (l : Lexer) : Option Lexer := do
  let l ← l.noteKey
  let (t, used) ←
    if l.rest[1]? = some '<' then do
      let (uri, used) ← (l.skip 2).tagText? true
      if used = 0 || l.rest[used + 2]? ≠ some '>' then none
      else pure (Token.tag [] uri, used + 3)
    else do
      let handle := l.handle
      if 1 < handle.length && handle.getLast? = some '!' then
        let (suffix, used) ← (l.skip handle.length).tagText? false
        if used = 0 then none else pure (Token.tag handle suffix, handle.length + used)
      else
        let (suffix, used) ← (l.skip 1).tagText? false
        pure (if suffix.isEmpty then Token.tag [] Tag.mark else Token.tag ['!'] suffix, used + 1)
  let l := l.skip used
  if endsWord l.rest || (l.inFlow && l.rest.head? = some ',') then
    pure ((l.allowKey false).emit t)
  else none

/-! ## Collections -/

def flowStart (l : Lexer) (t : Token) : Option Lexer := do
  let l ← l.noteKey
  pure (({ l with keys := none :: l.keys, keyAllowed := true }.skip 1).emit t)

def flowEnd (l : Lexer) (t : Token) : Option Lexer := do
  let l ← l.dropKey
  let keys := if l.inFlow then l.keys.drop 1 else l.keys
  pure (({ l with keys, keyAllowed := false }.skip 1).emit t)

def flowEntry (l : Lexer) : Option Lexer := do
  let l ← l.dropKey
  pure (((l.allowKey true).skip 1).emit .flowEntry)

def blockEntry (l : Lexer) : Option Lexer := do
  let l ←
    if l.inFlow then some l
    else if l.keyAllowed then some (l.roll l.position.column l.tokens.length .blockSequenceStart)
    else none
  let l ← l.dropKey
  pure (((l.allowKey true).skip 1).emit .blockEntry)

def keyMark (l : Lexer) : Option Lexer := do
  let l ←
    if l.inFlow then some l
    else if l.keyAllowed then some (l.roll l.position.column l.tokens.length .blockMappingStart)
    else none
  let l ← l.dropKey
  pure (((l.allowKey (!l.inFlow)).skip 1).emit .key)

def valueMark (l : Lexer) : Option Lexer := do
  match ← l.currentKey with
  | some k =>
    let l := (l.insert k.tokens .key).roll k.position.column k.tokens .blockMappingStart
    pure ((((l.setKey none).allowKey false).skip 1).emit .value)
  | none =>
    let l ←
      if l.inFlow then some l
      else if l.keyAllowed then some (l.roll l.position.column l.tokens.length .blockMappingStart)
      else none
    pure (((l.allowKey (!l.inFlow)).skip 1).emit .value)

/-! ## Texts -/

/-- Takes in a text that was read. -/
def take (l : Lexer) (plain : Bool) (s : Scalar) : Lexer :=
  { l with rest := s.rest, position := s.position }.emit (.scalar plain s.text)

def blockText (l : Lexer) (literal : Bool) : Option Lexer := do
  let l ← l.dropKey
  let s ← blockScalar literal l.indent? (l.position.afterAll (l.rest.take 1)) (l.rest.drop 1)
  pure ((l.take false s).allowKey true)

def quotedText (l : Lexer) (read : Fold → Position → List Char → Option Scalar) : Option Lexer := do
  let l ← l.noteKey
  let s ← read .empty (l.position.afterAll (l.rest.take 1)) (l.rest.drop 1)
  pure ((l.take false s).allowKey false)

def plainText (l : Lexer) : Option Lexer := do
  let l ← l.noteKey
  let indent := match l.indent? with
    | some n => n + 1
    | none => 0
  let s ← plainFrom l.inFlow indent .empty l.position l.rest
  pure ((l.take true s).allowKey s.endedLine)

/-- The characters that begin no plain text. -/
def isIndicator (c : Char) : Bool :=
  "-?:,[]\x7b\x7d#&*!|>'\"%@\x60".toList.contains c

/-- Takes the next token; its first character is `c`. -/
def next (l : Lexer) (c : Char) (cs : List Char) : Option Lexer :=
  let atStart := l.position.column == 0
  let alone := endsWord cs
  if atStart && c == '%' then l.directive
  else if atStart && startsWithMark '-' (c :: cs) then l.documentMark .documentStart
  else if atStart && startsWithMark '.' (c :: cs) then l.documentMark .documentEnd
  else if c == '[' then l.flowStart .flowSequenceStart
  else if c == '\x7b' then l.flowStart .flowMappingStart
  else if c == ']' then l.flowEnd .flowSequenceEnd
  else if c == '\x7d' then l.flowEnd .flowMappingEnd
  else if c == ',' then l.flowEntry
  else if c == '-' && alone then l.blockEntry
  else if c == '?' && (l.inFlow || alone) then l.keyMark
  else if c == ':' && (l.inFlow || alone) then l.valueMark
  else if c == '*' then l.anchor .reference
  else if c == '&' then l.anchor .anchor
  else if c == '!' then l.tag
  else if c == '|' && !l.inFlow then l.blockText true
  else if c == '>' && !l.inFlow then l.blockText false
  else if c == '\'' then l.quotedText singleFrom
  else if c == '"' then l.quotedText doubleFrom
  else if !isIndicator c && !isBlank c then l.plainText
  else if c == '-' && !cs.head?.any isBlank then l.plainText
  else if !l.inFlow && (c == '?' || c == ':') && !alone then l.plainText
  else none

/-- Takes `fuel` tokens, or all there are. -/
def takeAll : Nat → Lexer → Option (List Token)
  | 0, _ => none
  | fuel + 1, l =>
    let l := l.skipBlanks
    match l.rest with
    | [] =>
      let l := { l with position := if l.position.column = 0 then l.position else l.position.after '\n' }
      (l.unroll none).dropKey.map fun l => l.tokens.reverse
    | '#' :: _ => takeAll fuel l.skipComment
    | c :: cs => ((l.unroll (some l.position.column)).next c cs) >>= takeAll fuel

end Lexer

/-- The tokens of a YAML text. -/
def tokens? (s : String) : Option (List Token) :=
  let cs := normalize s.toList
  if cs.all isAllowed then (Lexer.ofText cs).takeAll (2 * cs.length + 2) else none

end OutageLedger.Yaml
