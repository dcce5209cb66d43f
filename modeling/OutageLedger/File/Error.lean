/-
  Why a file cannot be read.
-/

namespace OutageLedger

/-- Why a file cannot be read as text. -/
inductive FileError
  | notFound
  /-- A name on the path that is to lead further is that of a file. -/
  | notDirectory
  | isDirectory
  /-- The path or a name on it is longer than the system takes. -/
  | nameTooLong
  | notUtf8
  | other (detail : String)
  deriving DecidableEq, Repr

def FileError.message : FileError → String
  | .notFound => "No such file or directory (os error 2)"
  | .notDirectory => "Not a directory (os error 20)"
  | .isDirectory => "Is a directory (os error 21)"
  | .nameTooLong => "File name too long (os error 36)"
  | .notUtf8 => "stream did not contain valid UTF-8"
  | .other detail => detail

end OutageLedger
