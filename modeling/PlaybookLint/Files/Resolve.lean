import PlaybookLint.Files.Tree

/-!
The absolute path of a path text, with links and double dots resolved as far as the tree tells. Names
that are not there are kept, so that every path has an absolute form, except where links lead back to
themselves and where the current directory is gone.
-/

namespace PlaybookLint.Files

/-- What is known of the links met so far: where they lead, or nothing while that is being found. -/
abbrev Seen := List (Place × Option Place)

/-- A place reached on the way along a path. A link met again while it was being resolved ends the
way; what is left then is the text of that link's path and of all that was to follow. -/
structure Resolution where
  place : Place
  broken : Option String
  seen : Seen

/-- The path from the root to a place. -/
def pathTo (place : Place) : Path := ⟨.slash, place⟩

/-- The text of a path followed by the text of another; a rooted one stands for itself. -/
def joinTexts (first second : String) : String :=
  if isRooted second then second
  else if first.toList.getLast? == some '/' then first ++ second
  else first ++ "/" ++ second

/-- Resolves the pieces between slashes one by one from a place. `nested` resolves the text of a
link. -/
def resolvePieces (tree : Tree) (nested : Seen → Place → String → Resolution) :
    Seen → Place → List String → Resolution
  | seen, place, [] => ⟨place, none, seen⟩
  | seen, place, name :: rest =>
    if name.isEmpty || name == "." then resolvePieces tree nested seen place rest
    else if name == ".." then resolvePieces tree nested seen place.dropLast rest
    else
      let next := place ++ [name]
      let breakOff (text : String) (seen : Seen) : Resolution :=
        ⟨next, some (joinTexts text ("/".intercalate rest)), seen⟩
      match tree.seen? next with
      | some (.link target) =>
        match seen.lookup next with
        | some (some known) => resolvePieces tree nested seen known rest
        | some none => breakOff (pathTo next).text seen
        | none =>
          let inner := nested ((next, none) :: seen) place target
          match inner.broken with
          | none => resolvePieces tree nested ((next, some inner.place) :: inner.seen) inner.place rest
          | some text => breakOff text inner.seen
      | _ => resolvePieces tree nested seen next rest

/-- Resolves a path text; every link met on the way is nested one deeper. -/
def resolveWithin (tree : Tree) : Nat → Seen → Place → String → Resolution
  | 0, seen, place, path => ⟨place, some path, seen⟩
  | depth + 1, seen, place, path =>
    let pieces := (Path.splitSlashes path.toList).map String.ofList
    resolvePieces tree (resolveWithin tree depth) seen (startOf place path)
      (if isRooted path then pieces.drop 1 else pieces)

/-- Lets each double dot take away the name before it. -/
def collapse (names : List String) : Place :=
  names.foldl (fun place name => if name == ".." then place.dropLast else place ++ [name]) []

/-- The path of a path text as far as it can be resolved. -/
def realPath (tree : Tree) (cwd : Place) (path : String) : Path :=
  let reached := resolveWithin tree (tree.length + 1) [] cwd path
  match reached.broken with
  | none => pathTo reached.place
  | some text =>
    let whole := Path.ofText text
    { whole with parts := collapse whole.parts }

/-- Why a path has no absolute form. -/
inductive ResolveFault where
  | nullCharacter
  | linkLoop (path : String)
  /-- The current directory is no longer there. -/
  | noDirectory
deriving Repr, DecidableEq

def ResolveFault.message : ResolveFault → String
  | .nullCharacter => "embedded null byte"
  | .linkLoop path => s!"Symlink loop from {Text.quoted path}"
  | .noDirectory => s!"[Errno {Errno.notFound.number}] {Errno.notFound.reason}"

/-- The path of the current directory, if it is there. -/
def currentPath (tree : Tree) (cwd : Place) : Except ResolveFault Path :=
  match tree.at? cwd with
  | some .directory | some (.barred _ _) => .ok (pathTo cwd)
  | _ => .error .noDirectory

/-- The absolute form of a path. -/
def resolve (tree : Tree) (cwd : Place) (path : Path) : Except ResolveFault Path :=
  if path.text.toList.contains '\x00' then .error .nullCharacter
  else do
    if !path.isAbsolute then
      let _ ← currentPath tree cwd
    let real := realPath tree cwd path.text
    match stat tree cwd real.text with
    | .error .linkLoop => .error (.linkLoop real.text)
    | _ => .ok real

end PlaybookLint.Files
