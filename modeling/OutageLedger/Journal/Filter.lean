import OutageLedger.Journal
import OutageLedger.Text.Alphanumeric

/-
  Which events of the journal are shown. A filter is a list of rules separated by commas: a level for
  every part of the program, or a part with a level, where the part may be followed by brackets that
  name a span, or in braces a field that an event must have. Of the rules that speak of an event the
  closest decides: the one for the longest name of a part, and of those one with a field. What is no
  rule is passed over with a complaint.
-/

namespace OutageLedger

open Text

/-- How much is shown: nothing at zero, and at each further step the events of one more level. -/
abbrev Verbosity := Nat

/-- The least verbosity that shows a level. -/
def Level.verbosity : Level → Verbosity
  | .error => 1
  | .warn => 2
  | .info => 3
  | .debug => 4

/-- The verbosity that shows everything. -/
def fullVerbosity : Verbosity := 5

def verbosityNames : List (String × Verbosity) :=
  [("off", 0), ("error", 1), ("warn", 2), ("info", 3), ("debug", 4), ("trace", 5)]

/-- A verbosity as a number, which may have a plus before it. -/
def verbosityOfNumber? (cs : List Char) : Option Verbosity :=
  let digits := if cs.head? = some '+' then cs.drop 1 else cs
  if !digits.isEmpty && digits.all isDigit && value digits ≤ fullVerbosity then some (value digits)
  else none

def verbosityOfName? (cs : List Char) : Option Verbosity :=
  (verbosityOfNumber? cs).or (verbosityNames.lookup (String.ofList (cs.map Char.toLower)))

/-- What else than a part of the program a rule asks for. -/
inductive LogScope
  /-- Every event. -/
  | all
  /-- The events with a field of a name. -/
  | withField (name : String)
  /-- The events within a span, or with a field of a value in a span. There are no spans. -/
  | within
  deriving DecidableEq, Repr

/-- A rule of a filter. -/
structure LogRule where
  /-- What the names of the parts begin with. -/
  target : List Char
  scope : LogScope
  verbosity : Verbosity
  deriving DecidableEq, Repr

/-- Why a text is no rule. -/
inductive LogRuleError
  | malformed
  | unknownLevel
  deriving DecidableEq, Repr

def LogRuleError.message : LogRuleError → String
  | .malformed => "invalid filter directive"
  | .unknownLevel =>
    "error parsing level filter: expected one of \"off\", \"error\", \"warn\", \"info\", \"debug\", " ++
      "\"trace\", or a number 0-5"

abbrev LogFilter := List LogRule

namespace LogRule

/-! ## Reading a rule -/

/-- A rule begins with a letter, a digit or one of these marks, if not with a bracket. -/
def isStart (c : Char) : Bool :=
  isAlphanumeric c || c == '-' || c == ':' || c == '_'

/-- The verbosity after a part; without a text it is full. -/
def verbosityOf (cs : List Char) : Except LogRuleError Verbosity :=
  if cs.isEmpty then .ok fullVerbosity
  else
    match verbosityOfName? cs with
    | some v => .ok v
    | none => .error .unknownLevel

/-- A text under reading. Places are counted without the blanks around the text, but what stands
between two places is taken from the text with them. -/
structure RuleText where
  given : List Char
  trimmed : List Char

namespace RuleText

def of (cs : List Char) : RuleText :=
  ⟨cs, trim cs⟩

/-- What follows a place. -/
def after (s : RuleText) (place : Nat) : List Char :=
  s.trimmed.drop place

/-- The first place from a place on where one of the marks stands, or the end. -/
def find (s : RuleText) (place : Nat) (marks : List Char) : Nat :=
  place + ((s.after place).takeWhile (!marks.contains ·)).length

/-- What stands from a place up to another. -/
def between (s : RuleText) (first last : Nat) : List Char :=
  (s.given.drop first).take (last - first)

def upToEnd (s : RuleText) (first : Nat) : List Char :=
  s.given.drop first

end RuleText

/-- The rule for a part and a scope, with the level that may follow them. -/
def ofLevel (s : RuleText) (target : List Char) (scope : LogScope) (place : Nat) :
    Except LogRuleError LogRule :=
  match s.after place with
  | [] => .ok ⟨target, scope, fullVerbosity⟩
  | '=' :: _ => (verbosityOf (s.upToEnd (place + 1))).map fun v => ⟨target, scope, v⟩
  | _ => .error .malformed

/-- What the braces with a field ask for, in a span or without one. -/
def scopeOf (span field : List Char) : LogScope :=
  if span.isEmpty && !field.contains '=' then .withField (String.ofList field) else .within

/-- The rule whose brackets begin before a place. -/
def ofBrackets (s : RuleText) (target : List Char) (place : Nat) : Except LogRuleError LogRule :=
  let spanEnd := s.find place [']', '\x7b']
  match s.after spanEnd with
  | ']' :: _ => ofLevel s target .within (spanEnd + 1)
  | '\x7b' :: _ =>
    let field := s.between (spanEnd + 1) (s.find (spanEnd + 1) ['\x7d'])
    let fieldEnd := s.find (spanEnd + 1) ['\x7d']
    match s.after fieldEnd with
    | '\x7d' :: ']' :: _ =>
      if field.isEmpty then .error .malformed
      else ofLevel s target (scopeOf (s.between place spanEnd) field) (fieldEnd + 2)
    | _ => .error .malformed
  | _ => .error .malformed

/-- A level alone, or the name of a part alone. -/
def ofWord (cs : List Char) : LogRule :=
  match verbosityOfName? cs with
  | some v => ⟨[], .all, v⟩
  | none => ⟨cs, .all, fullVerbosity⟩

def ofSource (s : RuleText) : Except LogRuleError LogRule :=
  match s.trimmed with
  | [] => .error .malformed
  | '[' :: _ => ofBrackets s [] 1
  | c :: _ =>
    if !isStart c then .error .malformed
    else
      let targetEnd := s.find 0 ['=', '[']
      let target := s.between 0 targetEnd
      match s.after targetEnd with
      | [] => .ok (ofWord (s.upToEnd 0))
      | '[' :: _ => ofBrackets s target (targetEnd + 1)
      | _ => ofLevel s target .all targetEnd

def ofChars (cs : List Char) : Except LogRuleError LogRule :=
  ofSource (.of cs)

/-! ## What a rule speaks of -/

/-- An event has a field of a name; its message is one. -/
def hasField (e : Event) (name : String) : Bool :=
  name == "message" || e.fields.any (·.1 == name)

def isAbout (r : LogRule) (e : Event) : Bool :=
  r.target.isPrefixOf e.target.toList &&
    match r.scope with
    | .all => true
    | .withField name => hasField e name
    | .within => false

/-- A rule is closer than another about the same event: its part has a longer name, or it alone asks
for a field, or for one whose name comes later. -/
def isCloser (a b : LogRule) : Bool :=
  if a.target.length = b.target.length then
    match a.scope, b.scope with
    | .withField x, .withField y => y < x
    | .withField _, _ => true
    | _, _ => false
  else b.target.length < a.target.length

/-- The closer of two rules, or the second. -/
def closer (a b : LogRule) : LogRule :=
  if a.isCloser b then a else b

end LogRule

namespace LogFilter

/-- The texts between the commas of a filter, without empty ones. -/
def partsOf (s : String) : List (List Char) :=
  (s.toList.splitOn ',').filter (!·.isEmpty)

/-- Reads a filter, passing over what is no rule; without any rule only errors are shown. -/
def ofText (s : String) : LogFilter :=
  match (partsOf s).filterMap fun cs => (LogRule.ofChars cs).toOption with
  | [] => [⟨[], .all, Level.error.verbosity⟩]
  | rules => rules

/-- The complaint about a text that is no rule. -/
def complaint? (cs : List Char) : Option String :=
  match LogRule.ofChars cs with
  | .ok _ => none
  | .error e => some s!"ignoring \x60{String.ofList cs}\x60: {e.message}\n"

/-- The complaints about a filter, each a line. -/
def complaints (s : String) : List String :=
  (partsOf s).filterMap complaint?

/-- What a filter shows of the events like one. -/
def verbosity (f : LogFilter) (e : Event) : Verbosity :=
  let nothing : LogRule := ⟨[], .all, 0⟩
  ((f.filter (·.isAbout e)).foldl LogRule.closer nothing).verbosity

/-- The filter shows an event. -/
def shows (f : LogFilter) (e : Event) : Bool :=
  e.level.verbosity ≤ f.verbosity e

end LogFilter

end OutageLedger
