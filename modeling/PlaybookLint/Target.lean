import PlaybookLint.Path

/-!
The file that is linted and the directory that the linter works in.
-/

namespace PlaybookLint

structure Target where
  file : Path
  directory : Path
deriving Repr, DecidableEq

namespace Target

/-- The name of the file as told to an editor. -/
def name (t : Target) : String := t.file.text

/-- A path that the linter reported, as seen from where it worked. -/
def locate (t : Target) (reported : String) : String :=
  (t.directory.join (Path.ofText reported)).text

end Target

end PlaybookLint
