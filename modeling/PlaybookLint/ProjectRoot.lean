import PlaybookLint.Path
import PlaybookLint.Files.Errno

/-!
The root of the project that a file belongs to: the nearest directory above the file that holds one
of the markers, and the file's own directory if none does.
-/

namespace PlaybookLint.ProjectRoot

/-- Names whose presence marks the root of a project. -/
def markers : List String := [".ansible-lint", ".git"]

/-- Does a directory hold one of the markers? They are looked for in order. -/
def isMarked (probe : Path → Except AccessFault Bool) (directory : Path) : Except AccessFault Bool :=
  markers.anyM fun marker => probe (directory.child marker)

/-- The first directory that holds a marker. -/
def firstMarked? (probe : Path → Except AccessFault Bool) :
    List Path → Except AccessFault (Option Path)
  | [] => .ok none
  | directory :: rest => do
    if ← isMarked probe directory then return some directory else firstMarked? probe rest

/-- The root of the project of a file, `probe` telling what there is. -/
def find (probe : Path → Except AccessFault Bool) (file : Path) : Except AccessFault Path :=
  (firstMarked? probe file.parent.upward).map (·.getD file.parent)

end PlaybookLint.ProjectRoot
