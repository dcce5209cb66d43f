import OutageLedger.Yaml.Token

/-
  The nodes of a YAML document, put together from its tokens. Nodes with anchors are numbered, and an
  alias stands for the node with a number, so that a node may hold itself. The number of an anchor is
  that of the names before it: a name that is given again takes a new number, which a later name may
  take as well, and of nodes with one number the one that begins last is meant.
-/

namespace OutageLedger.Yaml

inductive Node
  /-- A text: written plainly or not, with its tag. -/
  | scalar (plain : Bool) (tag : Option Tag) (text : String)
  | sequence (items : List Node)
  | mapping (pairs : List (Node × Node))
  /-- The node with the anchor of a number. -/
  | reference (number : Nat)
  deriving Repr

/-- A text that is not there. -/
def Node.absent : Node :=
  .scalar true none ""

/-- What is known of a document besides its tokens. -/
structure Names where
  /-- The names of anchors, each with its number. -/
  numbers : List (List Char × Nat)
  /-- The numbers of the nodes with anchors, the one that began last first, each with its place among
  them. -/
  begun : List (Nat × Nat)
  /-- The nodes with anchors, each with its place. -/
  ended : List (Nat × Node)
  /-- The prefixes of tags. -/
  handles : List (List Char × Tag)

namespace Names

/-- The prefixes that every document knows. -/
def standardHandles : List (List Char × Tag) :=
  [(['!'], Tag.mark), (['!', '!'], Tag.ofBasic "tag:yaml.org,2002:".toList)]

def ofHandles (handles : List (List Char × Tag)) : Names :=
  ⟨[], [], [], handles ++ standardHandles⟩

/-- A tag with its handle spelt out. -/
def tag? (n : Names) (handle : List Char) (suffix : Tag) : Option Tag :=
  if handle.isEmpty then some suffix else (n.handles.lookup handle).map (· ++ suffix)

/-- A node with an anchor begins. -/
def begin (n : Names) (name : List Char) : Names :=
  { n with
    numbers := (name, n.numbers.length) :: n.numbers.filter (·.1 ≠ name)
    begun := (n.numbers.length, n.begun.length) :: n.begun }

/-- The node with the anchor at a place has ended. -/
def finish (n : Names) (place : Nat) (node : Node) : Names :=
  { n with ended := (place, node) :: n.ended }

/-- The nodes with anchors by their numbers. -/
def shared (n : Names) : List (Nat × Node) :=
  n.begun.filterMap fun (number, place) => (n.ended.lookup place).map (number, ·)

end Names

/-- Tokens that are left over, and the names so far. -/
structure Remaining where
  tokens : List Token
  names : Names

/-- What stands before a node: an anchor, kept as the place of the node among those with anchors, and
a tag. -/
structure Properties where
  anchor : Option Nat
  tag : Option Tag

/-- Reads from tokens. -/
abbrev Reader := StateT Remaining Option

namespace Reader

def peek : Reader (Option Token) := do
  pure (← get).tokens.head?

def skip : Reader Unit :=
  modify fun s => { s with tokens := s.tokens.drop 1 }

/-- The tag that comes next, if one does. -/
def tag : Reader (Option Tag) := do
  match ← peek with
  | some (.tag handle suffix) =>
    match (← get).names.tag? handle suffix with
    | some t => skip; pure (some t)
    | none => failure
  | _ => pure none

/-- The anchor that comes next, if one does. -/
def anchor : Reader (Option Nat) := do
  match ← peek with
  | some (.anchor name) =>
    let place := (← get).names.begun.length
    skip
    modify fun s => { s with names := s.names.begin name }
    pure (some place)
  | _ => pure none

/-- An anchor and a tag in any order. -/
def properties : Reader Properties := do
  match ← anchor with
  | some place => pure ⟨some place, ← tag⟩
  | none =>
    let t ← tag
    if t.isSome then pure ⟨← anchor, t⟩ else pure ⟨none, none⟩

/-- Keeps a node under its anchor. -/
def keep (p : Properties) (n : Node) : Reader Node := do
  match p.anchor with
  | some place => modify fun s => { s with names := s.names.finish place n }
  | none => pure ()
  pure n

/-- The node that an alias stands for; its anchor stands before it. -/
def referent (name : List Char) : Reader Node := do
  match (← get).names.numbers.lookup name with
  | some number => skip; pure (.reference number)
  | none => failure

/-- The tag of a text; a mark alone says nothing of it. -/
def textTag (p : Properties) : Option Tag :=
  p.tag.filter (· ≠ Tag.mark)

/-- Where a node stands. -/
inductive Place
  | flow
  | block
  /-- In a block, where a sequence need not be indented. -/
  | member

mutual

/-- A node; `fuel` bounds the number of steps. -/
def node : Nat → Place → Reader Node
  | 0, _ => failure
  | fuel + 1, place => do
    match ← peek with
    | some (.reference name) => referent name
    | _ =>
      let p ← properties
      match ← peek, place with
      | some .blockEntry, .member => do keep p (.sequence (← entries fuel false))
      | some (.scalar plain text), _ => do
        skip
        keep p (.scalar plain (textTag p) (String.ofList text))
      | some .flowSequenceStart, _ => do
        skip
        keep p (.sequence (← flowItems fuel true))
      | some .flowMappingStart, _ => do
        skip
        keep p (.mapping (← flowPairs fuel true))
      | some .blockSequenceStart, .block | some .blockSequenceStart, .member => do
        skip
        keep p (.sequence (← entries fuel true))
      | some .blockMappingStart, .block | some .blockMappingStart, .member => do
        skip
        keep p (.mapping (← pairs fuel))
      | _, _ =>
        if p.anchor.isSome || p.tag.isSome then keep p (.scalar true p.tag "") else failure

/-- A node, or none before one of the tokens `ends`. -/
def part : Nat → Place → (Token → Bool) → Reader Node
  | 0, _, _ => failure
  | fuel + 1, place, ends => do
    match ← peek with
    | none => pure .absent
    | some t => if ends t then pure .absent else node fuel place

/-- The entries of a sequence in a block, to its end if it is `closed` by one. -/
def entries : Nat → Bool → Reader (List Node)
  | 0, _ => failure
  | fuel + 1, closed => do
    match ← peek with
    | some .blockEntry => do
      skip
      let ends : Token → Bool :=
        if closed then fun t => t == .blockEntry || t == .blockEnd
        else fun t => t == .blockEntry || t == .key || t == .value || t == .blockEnd
      let n ← part fuel .block ends
      pure (n :: (← entries fuel closed))
    | some .blockEnd => if closed then do skip; pure [] else pure []
    | _ => if closed then failure else pure []

/-- The value after a key. -/
def valueOf : Nat → Place → (Token → Bool) → Reader Node
  | 0, _, _ => failure
  | fuel + 1, place, ends => do
    match ← peek with
    | some .value => do skip; part fuel place ends
    | _ => pure .absent

/-- The pairs of a mapping in a block, to its end. -/
def pairs : Nat → Reader (List (Node × Node))
  | 0 => failure
  | fuel + 1 => do
    match ← peek with
    | some .key => do
      skip
      let ends : Token → Bool := fun t => t == .key || t == .value || t == .blockEnd
      let k ← part fuel .member ends
      let v ← valueOf fuel .member ends
      pure ((k, v) :: (← pairs fuel))
    | some .blockEnd => do skip; pure []
    | _ => failure

/-- The items of a sequence in brackets; a comma stands before each but the first. -/
def flowItems : Nat → Bool → Reader (List Node)
  | 0, _ => failure
  | fuel + 1, first => do
    match ← peek with
    | some .flowSequenceEnd => do skip; pure []
    | t =>
      if !first then
        if t == some .flowEntry then skip else failure
      let ends : Token → Bool := fun t => t == .flowEntry || t == .flowSequenceEnd
      match ← peek with
      | some .flowSequenceEnd => do skip; pure []
      | some .key => do
        skip
        let k ← part fuel .flow fun t => t == .value || ends t
        let v ← valueOf fuel .flow ends
        pure (.mapping [(k, v)] :: (← flowItems fuel false))
      | _ => do
        let n ← node fuel .flow
        pure (n :: (← flowItems fuel false))

/-- The pairs of a mapping in braces; a comma stands before each but the first. -/
def flowPairs : Nat → Bool → Reader (List (Node × Node))
  | 0, _ => failure
  | fuel + 1, first => do
    match ← peek with
    | some .flowMappingEnd => do skip; pure []
    | t =>
      if !first then
        if t == some .flowEntry then skip else failure
      let ends : Token → Bool := fun t => t == .flowEntry || t == .flowMappingEnd
      match ← peek with
      | some .flowMappingEnd => do skip; pure []
      | some .key => do
        skip
        let k ← part fuel .flow fun t => t == .value || ends t
        let v ← valueOf fuel .flow ends
        pure ((k, v) :: (← flowPairs fuel false))
      | _ => do
        let n ← node fuel .flow
        pure ((n, .absent) :: (← flowPairs fuel false))

end

end Reader

/-! ## Documents -/

/-- The directives before a document; there is one version at most, and each handle is named once. -/
def directives (versioned : Bool) (handles : List (List Char × Tag)) :
    List Token → Option (List (List Char × Tag) × List Token)
  | .versionDirective major minor :: ts =>
    if versioned || major ≠ 1 || (minor ≠ 1 && minor ≠ 2) then none else directives true handles ts
  | .tagDirective handle tagPrefix :: ts =>
    if (handles.lookup handle).isSome then none
    else directives versioned ((handle, tagPrefix) :: handles) ts
  | ts => some (handles, ts)

/-- The node of a document, and its nodes with anchors by their numbers. -/
structure Document where
  root : Node
  shared : List (Nat × Node)

/-- The node that a node stands for. -/
def Document.follow (d : Document) : Node → Node
  | .reference number => (d.shared.lookup number).getD .absent
  | n => n

/-- The document that tokens begin with. -/
def documentOf (handles : List (List Char × Tag)) (ts : List Token) :
    Option (Document × List Token) := do
  let (root, s) ← Reader.node (4 * ts.length + 4) .block ⟨ts, Names.ofHandles handles⟩
  pure (⟨root, s.names.shared⟩, s.tokens)

/-- The document after its start. -/
def startedDocument (handles : List (List Char × Tag)) (ts : List Token) :
    Option (Document × List Token) :=
  match ts with
  | [] | .documentStart :: _ | .documentEnd :: _ | .versionDirective _ _ :: _
  | .tagDirective _ _ :: _ => some (⟨.absent, []⟩, ts)
  | _ => documentOf handles ts

/-- The only document of a YAML text, if there is one. A second document is refused. -/
def document? (s : String) : Option (Option Document) := do
  let ts ← tokens? s
  match ts with
  | [] => pure none
  | _ =>
    let (handles, rest) ← directives false [] ts
    let (d, rest) ←
      match rest with
      | .documentStart :: rest => startedDocument handles rest
      | _ => if rest.length = ts.length then documentOf [] ts else none
    if rest.all (· == .documentEnd) then pure (some d) else none

end OutageLedger.Yaml
