import PlaybookLint.Program.Image
import PlaybookLint.Program.Performance

/-!
What becomes of the programs of a host. Nothing is assumed of them: which files can be run by
themselves, what such a program does, and how it leaves the files, all depends on the host.
-/

namespace PlaybookLint.Program

structure Machine where
  native : Native
  /-- What a program does in a directory and an environment, and the files as it leaves them. -/
  perform : Image → Files.Place → List (String × String) → Files.Tree → Performance × Files.Tree

/-- A machine that runs nothing by itself. -/
def Machine.idle : Machine where
  native := fun _ _ => .ok false
  perform := fun _ _ _ tree => (⟨[], none, none⟩, tree)

end PlaybookLint.Program
