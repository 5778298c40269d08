import PlaybookLint.Files.Tree

/-!
Search paths: directories with colons between them, in which a program is looked for by its name.
-/

namespace PlaybookLint.Files

/-- The pieces between colons, empty ones included. -/
def splitColons : List Char → List (List Char)
  | [] => [[]]
  | ':' :: rest => [] :: splitColons rest
  | c :: rest =>
    match splitColons rest with
    | [] => [[c]]
    | piece :: pieces => (c :: piece) :: pieces

/-- A name in a directory; the empty directory is the current one. -/
def inDirectory (directory name : String) : String :=
  if directory.isEmpty then name
  else if directory.toList.getLast? == some '/' then directory ++ name
  else directory ++ "/" ++ name

/-- What a name may mean along a search path. -/
def candidates (searchPath name : String) : List String :=
  (splitColons searchPath.toList).map fun directory => inDirectory (String.ofList directory) name

/-- Does a path lead to a file that may be run? -/
def isProgram (tree : Tree) (cwd : Place) (path : String) : Bool :=
  !path.toList.contains '\x00' &&
    match stat tree cwd path with
    | .ok (.file _ executable) => executable
    | _ => false

end PlaybookLint.Files
