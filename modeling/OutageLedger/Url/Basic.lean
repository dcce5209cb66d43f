import OutageLedger.Url.Host

/-
  Addresses of resources, after the URL Standard: scheme, host, path, query and fragment. All parts
  are kept in their written form.
-/

namespace OutageLedger

open Text

inductive Host
  | domain (name : List Char)
  | ipv4 (address : Nat)
  | ipv6 (pieces : List Nat)
  deriving DecidableEq, Repr

def Host.text : Host → List Char
  | domain name => name
  | ipv4 address => Ipv4.text address
  | ipv6 pieces => '[' :: Ipv6.text pieces ++ [']']

inductive UrlPath
  /-- A path that is no list of segments. -/
  | rootless (text : List Char)
  | segments (segments : List (List Char))
  deriving DecidableEq, Repr

def UrlPath.text : UrlPath → List Char
  | rootless text => text
  | segments segs => segs.flatMap ('/' :: ·)

structure Url where
  scheme : List Char
  username : List Char
  password : Option (List Char)
  /-- Nothing when the scheme is followed by the path. -/
  host : Option Host
  portNumber : Option Nat
  path : UrlPath
  query : Option (List Char)
  fragment : Option (List Char)
  deriving DecidableEq, Repr

namespace Url

/-- The schemes whose addresses have a host and a path, and the number that each is served at. -/
def ports : List (String × Nat) :=
  [("http", 80), ("https", 443), ("ws", 80), ("wss", 443), ("ftp", 21)]

/-- The number that a scheme is served at when none is written. -/
def defaultPort? (scheme : List Char) : Option Nat :=
  ports.lookup (String.ofList scheme)

def isFile (scheme : List Char) : Bool :=
  scheme == "file".toList

/-- Schemes that take a backslash for a slash and know hosts by their addresses. -/
def isSpecial (scheme : List Char) : Bool :=
  (defaultPort? scheme).isSome || isFile scheme

/-- There is a host, and it is not empty. -/
def hasHost (u : Url) : Bool :=
  match u.host with
  | none | some (.domain []) => false
  | some _ => true

/-- The user and the password before the host. -/
def userInfoText (u : Url) : List Char :=
  match u.username, u.password with
  | [], none => []
  | name, none => name ++ ['@']
  | name, some password => name ++ ':' :: password ++ ['@']

def authorityText (u : Url) : List Char :=
  match u.host with
  | none => []
  | some host =>
    "//".toList ++ u.userInfoText ++ host.text ++
      match u.portNumber with
      | some n => ':' :: decimal n
      | none => []

/-- A part after its mark, if there is one. -/
def marked (mark : Char) : Option (List Char) → List Char
  | some cs => mark :: cs
  | none => []

def text (u : Url) : List Char :=
  u.scheme ++ ':' :: u.authorityText ++ u.path.text ++ marked '?' u.query ++ marked '#' u.fragment

instance : ToString Url where
  toString u := String.ofList u.text

/-! ## Segments -/

/-- A segment such as `C:`, which `..` does not remove. -/
def isDrive : List Char → Bool
  | [c, d] => c.isAlpha && (d == ':' || d == '|')
  | _ => false

/-- The segments without the last one. -/
def shorten (segs : List (List Char)) : List (List Char) :=
  match segs.getLast? with
  | some last => if isDrive last then segs else segs.dropLast
  | none => segs

end Url

end OutageLedger
