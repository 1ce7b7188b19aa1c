/-!
# Files

The files of a run, as far as it reads them: a path gives the text of a file or the reason why there
is none.
-/

namespace DocumentQuery

/-- Why a file cannot be read. -/
inductive FileError
  | notFound
  | isDirectory
  | notText
  | other (message : String)
  deriving DecidableEq, Repr

def FileError.message : FileError → String
  | .notFound => "No such file or directory (os error 2)"
  | .isDirectory => "Is a directory (os error 21)"
  | .notText => "stream did not contain valid UTF-8"
  | .other message => message

/-- The files that can be read, by their path. -/
abbrev Files := String → Except FileError String

end DocumentQuery
