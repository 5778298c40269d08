import PlaybookLint.Text.Quoted

/-!
Reasons why the system refuses to use a file or to run a program, with their numbers.
-/

namespace PlaybookLint

inductive Errno where
  | notFound
  | tooManyWords
  | badFormat
  | permission
  | notDirectory
  | isDirectory
  | nameTooLong
  | linkLoop
  /-- Any other reason, by its number and its text. -/
  | other (number : Nat) (reason : String)
deriving Repr, DecidableEq

namespace Errno

def number : Errno → Nat
  | .notFound => 2
  | .tooManyWords => 7
  | .badFormat => 8
  | .permission => 13
  | .notDirectory => 20
  | .isDirectory => 21
  | .nameTooLong => 36
  | .linkLoop => 40
  | .other number _ => number

def reason : Errno → String
  | .notFound => "No such file or directory"
  | .tooManyWords => "Argument list too long"
  | .badFormat => "Exec format error"
  | .permission => "Permission denied"
  | .notDirectory => "Not a directory"
  | .isDirectory => "Is a directory"
  | .nameTooLong => "File name too long"
  | .linkLoop => "Too many levels of symbolic links"
  | .other _ reason => reason

/-- Does the reason only say that there is nothing at the end of a path? Besides
missing names, these are descriptors that are not open and links that lead back to themselves. -/
def isAbsence (e : Errno) : Bool := [2, 20, 9, 40].contains e.number

/-- Does the reason say that a file or a directory on the way to it is not there? -/
def isMissing (e : Errno) : Bool := [2, 20].contains e.number

/-- The message about a path. -/
def message (e : Errno) (path : String) : String :=
  s!"[Errno {e.number}] {e.reason}: {Text.quoted path}"

end Errno

/-- The system refuses to look at a path. -/
structure AccessFault where
  errno : Errno
  path : String
deriving Repr, DecidableEq

def AccessFault.message (f : AccessFault) : String := f.errno.message f.path

end PlaybookLint
