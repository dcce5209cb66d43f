import OutageLedger.File.Error

/-
  A tree of files. A path is followed from name to name, each in the directory that the names before it
  lead to; a path may also be tidied as a text, without regard to what is there. Main statement:
  `contentsOf_put`, a file that was written can be read.
-/

namespace OutageLedger

/-- The names that lead from the root to a file or a directory. -/
abbrev Location := List String

namespace Location

/-- The bytes of a location as a path, with a slash before each name. -/
def size (l : Location) : Nat :=
  l.foldl (fun n name => n + name.utf8ByteSize + 1) 0

/-- The bytes that a name may have. -/
def nameLimit : Nat := 255

/-- The bytes that a path may have. -/
def pathLimit : Nat := 4095

/-- The names of a path. Slashes that follow each other have empty names between them. -/
def names (path : String) : List String :=
  (path.toList.splitOn '/').map String.ofList

def isAbsolute (path : String) : Bool :=
  path.toList.head? == some '/'

/-- A name that leads nowhere else. -/
def isStill (name : String) : Bool :=
  name == "" || name == "."

/-- The name of the directory above. -/
def above : String := ".."

end Location

/-- Files with what they hold, and directories, which may be empty. Every directory on the way to one of
them is there too. -/
structure FileTree where
  files : List (Location × List UInt8)
  directories : List Location
  /-- The directory that paths without a leading slash start from. -/
  home : Location

namespace FileTree

open Location

def isDirectory (t : FileTree) (l : Location) : Bool :=
  (t.home :: t.directories).any l.isPrefixOf ||
    t.files.any fun (file, _) => file != l && l.isPrefixOf file

def bytes? (t : FileTree) (l : Location) : Option (List UInt8) :=
  t.files.lookup l

/-- Puts a file in the place of what was at its location. -/
def put (t : FileTree) (l : Location) (bytes : List UInt8) : FileTree :=
  { t with files := (l, bytes) :: t.files.filter fun (file, _) => file != l }

/-- Where a path starts. -/
def start (t : FileTree) (path : String) : Location :=
  if isAbsolute path then [] else t.home

/-! ## Following a path -/

/-- Follows a name from a location. -/
def step (t : FileTree) (l : Location) (name : String) : Except FileError Location :=
  if !t.isDirectory l then .error .notDirectory
  else if isStill name then .ok l
  else if name = above then .ok l.dropLast
  else if nameLimit < name.utf8ByteSize then .error .nameTooLong
  else if t.isDirectory (l ++ [name]) || (t.bytes? (l ++ [name])).isSome then .ok (l ++ [name])
  else .error .notFound

/-- Follows a path to a file or a directory. -/
def follow (t : FileTree) (path : String) : Except FileError Location :=
  if path = "" then .error .notFound
  else if pathLimit < path.utf8ByteSize then .error .nameTooLong
  else (names path).foldlM t.step (t.start path)

def contentsOf (t : FileTree) (path : String) : Except FileError (List UInt8) := do
  match t.bytes? (← t.follow path) with
  | some bytes => .ok bytes
  | none => .error .isDirectory

/-! ## Tidying a path -/

/-- What a path comes to as a text: a name that is followed by that of the directory above goes away
with it, whether there is such a directory or not. Whatever it passes on its way is looked at, and the
path goes on unless that fails for another reason than that there is nothing. -/
def tidyStep (t : FileTree) (limit : Nat) (l : Location) (name : String) : Option Location :=
  if isStill name then some l
  else if name = above then some l.dropLast
  else
    let next := l ++ [name]
    if limit < next.size then none
    else
      match next.foldlM t.step [] with
      | .ok _ | .error .notFound => some next
      | .error _ => none

/-- The location of a path as a text, if it fits in a number of bytes at every name. -/
def tidy? (t : FileTree) (limit : Nat) (path : String) : Option Location :=
  (names path).foldlM (t.tidyStep limit) (t.start path)

/-! ## What was written can be read -/

theorem bytes?_put (t : FileTree) (l : Location) (bytes : List UInt8) :
    (t.put l bytes).bytes? l = some bytes := by
  simp [bytes?, put]

theorem contentsOf_put {t : FileTree} {path : String} {l : Location} {bytes : List UInt8}
    (h : (t.put l bytes).follow path = .ok l) : (t.put l bytes).contentsOf path = .ok bytes := by
  unfold contentsOf
  rw [h]
  simp only [bind, Except.bind, bytes?_put]

end FileTree

end OutageLedger
