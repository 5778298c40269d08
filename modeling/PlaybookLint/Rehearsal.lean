import PlaybookLint.Files.Host
import PlaybookLint.Program.Execution
import PlaybookLint.Toml

/-!
Rehearsals. A rehearsal describes a host in a TOML document: its files, its environment and the
current directory, on top of what every system has. Commands can be tried out on it.
-/

namespace PlaybookLint.Rehearsal

/-- The directory of a rehearsal where it names none. -/
def usualDirectory : String := "/work"

/-- The text under a key, if there is one. -/
def text? (entries : Entries) (key : String) : Option String :=
  match entries.value? key with
  | some (.text s) => some s
  | _ => none

/-- The table under a key; anything else counts as an empty one. -/
def tableAt (entries : Entries) (key : String) : Entries :=
  match entries.value? key with
  | some (.table inner) => inner
  | _ => []

def isSet (entries : Entries) (key : String) : Bool :=
  match entries.value? key with
  | some (.flag b) => b
  | _ => false

/-- What is described by a value: a file by its text, or a table that says more. -/
def nodeOf : Datum → Files.Node
  | .text s => .file (Text.Utf8.encode s) false
  | .table entries =>
    match text? entries "link", text? entries "text" with
    | some target, _ => .link target
    | none, some s => .file (Text.Utf8.encode s) (isSet entries "executable")
    | none, none => .directory
  | _ => .directory

/-- The place of a path in a rehearsal, seen from a directory. -/
def placeOf (directory : Files.Place) (path : String) : Files.Place :=
  Files.startOf directory path ++ (Files.namesIn path).filter fun name => !name.isEmpty && name != "."

/-- The host that a rehearsal describes. -/
def hostOf (entries : Entries) : Host :=
  let cwd := placeOf [] ((text? entries "cwd").getD usualDirectory)
  let bare := Program.systemTree.insert cwd .directory
  let tree := (tableAt entries "files").foldl
    (fun tree (path, node) => tree.insert (placeOf cwd path) (nodeOf node)) bare
  let env := (tableAt entries "env").filterMap fun
    | (key, .text value) => some (key, value)
    | _ => none
  ⟨tree, cwd, env, none, Program.rehearsal, .usual⟩

/-- Reads a rehearsal. -/
def read (document : String) : Except Toml.Refusal Host :=
  (Toml.read Room.usual.documents document).map hostOf

end PlaybookLint.Rehearsal
