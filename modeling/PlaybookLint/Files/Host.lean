import PlaybookLint.Files.Layout
import PlaybookLint.Files.Resolve
import PlaybookLint.Program.Machine
import PlaybookLint.Room

/-!
The host that the library works on: its files, the current directory, the environment, the account of
the user, what becomes of programs, and how deep calls may nest. The current directory may have been
taken away in the meantime.
-/

namespace PlaybookLint

structure Host where
  tree : Files.Tree
  cwd : Files.Place
  env : List (String × String)
  /-- The directory that the system knows for the user, if it knows the user. -/
  account? : Option String
  machine : Program.Machine
  room : Room

namespace Host

/-- A host of which only the files, the current directory and the environment matter. -/
def plain (tree : Files.Tree) (cwd : Files.Place) (env : List (String × String)) : Host :=
  ⟨tree, cwd, env, none, .idle, .usual⟩

/-- Is there something at the end of the path? -/
def probe (h : Host) (path : Path) : Except AccessFault Bool := Files.probe h.tree h.cwd path.text

/-- The absolute form of a path. -/
def resolve (h : Host) (path : Path) : Except Files.ResolveFault Path :=
  Files.resolve h.tree h.cwd path

/-- The current directory. -/
def cwdPath (h : Host) : Except Files.ResolveFault Path := Files.currentPath h.tree h.cwd

/-- The value of a variable of the environment, if it is set. -/
def envValue? (h : Host) (name : String) : Option String := h.env.lookup name

/-- The directory of the user: what the environment says or else what the system knows, slashes at its
end aside. A text that would itself have to be looked up, as it begins with a tilde, says nothing. -/
def home? (h : Host) : Option Path :=
  match (h.envValue? "HOME") <|> h.account? with
  | none => none
  | some told =>
    let trimmed := (told.toList.reverse.dropWhile (· == '/')).reverse
    match trimmed with
    | [] => some (Files.pathTo [])
    | '~' :: _ => none
    | _ => some (Path.ofText (String.ofList trimmed))

end Host

end PlaybookLint
