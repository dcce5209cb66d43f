import OutageLedger.Text.Percent
import OutageLedger.Url.Basic
import OutageLedger.Url.Domain

/-
  Reading an address. Blanks and controls around it, and tabs and line breaks within, are passed over.
  Segments `.` and `..` of the path are resolved, and characters that do not stand in their place are
  percent-encoded.
-/

namespace OutageLedger.Url

open Text

/-! ## Scheme -/

def isSchemeMark (c : Char) : Bool :=
  c.isAlphanum || c == '+' || c == '-' || c == '.'

/-- The scheme in lower case, and what follows its colon. -/
def splitScheme? (cs : List Char) : Option (List Char × List Char) :=
  match cs, cs.dropWhile isSchemeMark with
  | c :: _, ':' :: rest =>
    if c.isAlpha then some ((cs.takeWhile isSchemeMark).map Char.toLower, rest) else none
  | _, _ => none

/-! ## The host, and the number after it -/

/-- The end of the host and of what stands before it. -/
def endsAuthority (special : Bool) (c : Char) : Bool :=
  c == '/' || c == '?' || c == '#' || (special && c == '\\')

/-- The host up to a colon outside brackets. -/
def takeHost (special : Bool) : Bool → List Char → List Char
  | _, [] => []
  | inside, c :: cs =>
    if (c == ':' && !inside) || endsAuthority special c then []
    else c :: takeHost special (c == '[' || (inside && c != ']')) cs

def ipv6Host (cs : List Char) : Except UrlError Host :=
  if cs.getLast? = some ']' then
    match Ipv6.ofText? cs.dropLast with
    | some pieces => .ok (.ipv6 pieces)
    | none => .error .badIpv6
  else .error .badIpv6

/-- A host of a special scheme: an address or a domain name. -/
def specialHost (cs : List Char) : Except UrlError Host :=
  match cs with
  | '[' :: rest => ipv6Host rest
  | _ =>
    match (Utf8.decode? (percentDecode cs)).bind Domain.ofText? with
    | none => .error .badDomain
    | some [] => .error .noHost
    | some name =>
      if Ipv4.endsInNumber name then
        match Ipv4.ofText? name with
        | some address => .ok (.ipv4 address)
        | none => .error .badIpv4
      else .ok (.domain name)

/-- The characters that no host holds. -/
def isHostBreak (c : Char) : Bool :=
  c.toNat == 0 || " #/:<>?@[\\]^|".toList.contains c

/-- A host of any other scheme: an address in brackets, or a text. -/
def plainHost (cs : List Char) : Except UrlError Host :=
  match cs with
  | '[' :: rest => ipv6Host rest
  | _ =>
    if cs.any isHostBreak then .error .badHostCharacter
    else .ok (.domain (percentEncode isControl cs))

/-- The number after a host, and what follows it. -/
def portOf (scheme : List Char) (cs : List Char) : Except UrlError (Option Nat × List Char) :=
  match cs with
  | ':' :: rest =>
    let digits := rest.takeWhile isDigit
    let after := rest.dropWhile isDigit
    let n := value digits
    if 65535 < n then .error .badPort
    else if after.head?.all (endsAuthority true) then
      .ok (if digits.isEmpty || defaultPort? scheme == some n then none else some n, after)
    else .error .badPort
  | _ => .ok (none, cs)

/-- The user and the password, with what follows them. -/
structure UserInfo where
  username : List Char
  password : Option (List Char)
  rest : List Char

/-- What stands before the last `@` in front of the host. -/
def userInfo (special : Bool) (cs : List Char) : Except UrlError UserInfo :=
  let authority := cs.takeWhile fun c => !endsAuthority special c
  if authority.contains '@' then
    let hostLength := (authority.reverse.takeWhile (· != '@')).length
    let info := authority.take (authority.length - hostLength - 1)
    let rest := cs.drop (info.length + 1)
    if info.isEmpty && hostLength == 0 && !rest.isEmpty then .error .noHost
    else
      let password := (info.dropWhile (· != ':')).drop 1
      .ok {
        username := percentEncode inUserInfo (info.takeWhile (· != ':'))
        password := if password.isEmpty then none else some (percentEncode inUserInfo password)
        rest }
  else .ok ⟨[], none, cs⟩

/-! ## Path, query and fragment -/

/-- The parts of a path between its slashes. -/
def splitPath (special : Bool) (cs : List Char) : List (List Char) :=
  cs.splitOnP fun c => c == '/' || (special && c == '\\')

/-- A segment that stands for its place in the path. -/
def isHere (cs : List Char) : Bool :=
  [".", "%2e"].contains (String.ofList (cs.map Char.toLower))

/-- A segment that stands for the place above. -/
def isAbove (cs : List Char) : Bool :=
  ["..", "%2e%2e", "%2e.", ".%2e"].contains (String.ofList (cs.map Char.toLower))

/-- Appends segments to a path; the last of them ends it. -/
def resolve (done : List (List Char)) : List (List Char) → List (List Char)
  | [] => done
  | [s] =>
    if isAbove s then shorten done ++ [[]]
    else if isHere s then done ++ [[]]
    else done ++ [s]
  | s :: ss =>
    if isAbove s then resolve (shorten done) ss
    else if isHere s then resolve done ss
    else resolve (done ++ [s]) ss

def segmentsOf (special : Bool) (cs : List Char) : List (List Char) :=
  resolve [] ((splitPath special cs).map (percentEncode inPath))

def endsPath (c : Char) : Bool :=
  c == '?' || c == '#'

def queryOf (special : Bool) (cs : List Char) : Option (List Char) :=
  match cs with
  | '?' :: rest => some (percentEncode (inQuery special) (rest.takeWhile (· != '#')))
  | _ => none

def fragmentOf (cs : List Char) : Option (List Char) :=
  match cs.dropWhile (· != '#') with
  | _ :: rest => some (percentEncode inFragment rest)
  | [] => none

/-- The path after a host. A special scheme has a segment at least. -/
def pathAfterHost (special : Bool) (cs : List Char) : List (List Char) :=
  match cs.takeWhile (fun c => !endsPath c) with
  | [] => if special then [[]] else []
  | c :: rest =>
    if c == '/' || (special && c == '\\') then segmentsOf special rest
    else segmentsOf special (c :: rest)

/-- A URL with the path, query and fragment that a text ends with. -/
def withRest (u : Url) (special : Bool) (path : UrlPath) (cs : List Char) : Url :=
  let rest := cs.dropWhile fun c => !endsPath c
  { u with path, query := queryOf special rest, fragment := fragmentOf rest }

/-! ## The whole -/

def empty (scheme : List Char) : Url :=
  ⟨scheme, [], none, none, none, .segments [], none, none⟩

/-- What follows two slashes. -/
def afterSlashes (scheme cs : List Char) : Except UrlError Url := do
  let special := isSpecial scheme
  let info ← userInfo special cs
  let hostText := takeHost special false info.rest
  let rest := info.rest.drop hostText.length
  if special && hostText.isEmpty then .error .noHost
  else
    let host ← if special then specialHost hostText else plainHost hostText
    if hostText.isEmpty && rest.head? == some ':' then .error .noHost
    else
      let (portNumber, rest) ← portOf scheme rest
      if hostText.isEmpty && !(info.username.isEmpty && info.password.isNone) then .error .noHost
      else
        let u : Url :=
          { empty scheme with username := info.username, password := info.password, host, portNumber }
        .ok (u.withRest special (.segments (pathAfterHost special rest)) rest)

/-- A scheme without a host of its own. -/
def afterColon (scheme cs : List Char) : Url :=
  let path := cs.takeWhile fun c => !endsPath c
  match path with
  | '/' :: rest => (empty scheme).withRest false (.segments (segmentsOf false rest)) cs
  | _ => (empty scheme).withRest false (.rootless (percentEncode isControl path)) cs

def isSlash (c : Char) : Bool :=
  c == '/' || c == '\\'

/-- The host of a file: none for this machine, and none before a drive. -/
def fileHost (cs : List Char) : Except UrlError (Option Host) :=
  if cs.isEmpty || isDrive cs then .ok none
  else do
    match ← specialHost cs with
    | .domain name => if name = "localhost".toList then .ok none else .ok (some (.domain name))
    | host => .ok (some host)

/-- A path of a file does not begin with empty segments. -/
def dropEmpty (segs : List (List Char)) : List (List Char) :=
  match segs.dropWhile List.isEmpty with
  | [] => [[]]
  | segs => segs

def afterFile (scheme cs : List Char) : Except UrlError Url := do
  let slashes := (cs.takeWhile isSlash).length
  let cs' := cs.drop (min slashes 2)
  let hostText := if slashes < 2 then [] else cs'.takeWhile fun c => !endsAuthority true c
  let host ← fileHost hostText
  let rest := if isDrive hostText then cs' else cs'.drop hostText.length
  let segs := pathAfterHost true rest
  let host := if segs.head?.any isDrive then none else host
  .ok (({ empty scheme with host } : Url).withRest true (.segments (dropEmpty segs)) rest)

def isTrimmed (c : Char) : Bool :=
  c.toNat ≤ 0x20

def isLineMark (c : Char) : Bool :=
  c == '\t' || c == '\n' || c == '\r'

/-- The text of an address without what is passed over. -/
def clean (cs : List Char) : List Char :=
  (((cs.dropWhile isTrimmed).reverse.dropWhile isTrimmed).reverse).filter (!isLineMark ·)

/-- Reads an address. -/
def ofText (s : String) : Except UrlError Url :=
  match splitScheme? (clean s.toList) with
  | none => .error .noScheme
  | some (scheme, rest) =>
    if isFile scheme then afterFile scheme rest
    else if isSpecial scheme then afterSlashes scheme (rest.dropWhile isSlash)
    else
      match rest with
      | '/' :: '/' :: rest => afterSlashes scheme rest
      | _ => .ok (afterColon scheme rest)

/-! ## Further segments -/

/-- The segments before a further one: an empty path has none. -/
def stem (segs : List (List Char)) : List (List Char) :=
  if segs = [[]] then [] else segs

/-- Appends a segment as it is, unless it is `.` or `..`. Tabs and line breaks are left out of it, and
where that leaves `.` or `..` it is resolved. -/
def pushSegment (special : Bool) (segs : List (List Char)) (segment : String) : List (List Char) :=
  if segment = "." ∨ segment = ".." then segs
  else resolve (stem segs) [percentEncode (inSegment special) (segment.toList.filter (!isLineMark ·))]

/-- The path without an empty segment at its end. -/
def dropEmptyLast (segs : List (List Char)) : List (List Char) :=
  if 2 ≤ segs.length ∧ segs.getLast? = some [] then segs.dropLast else segs

/-- The address with further segments on its path; none if its path is no list of segments. -/
def extend? (u : Url) (segments : List String) : Option Url :=
  match u.path with
  | .rootless _ => none
  | .segments segs =>
    some { u with path := .segments (segments.foldl (pushSegment (isSpecial u.scheme)) (dropEmptyLast segs)) }

end OutageLedger.Url
