import PlaybookLint.Files.Errno
import PlaybookLint.Path

/-!
A tree of files, directories and symbolic links. Places in the tree are lists of names from the root
on. Walking a path follows links the way the system does: a name is looked up in a directory, a link
is replaced by what it points to, and a walk that meets too many links is refused.
-/

namespace PlaybookLint.Files

/-- A place in the tree: the names that lead to it from the root. -/
abbrev Place := List String

inductive Node where
  | file (content : List UInt8) (executable : Bool)
  | directory
  | link (target : String)
  /-- A file that is there but cannot be opened. -/
  | sealed (why : Errno)
  /-- A directory in which nothing can be looked up; even it cannot be looked at if it is not `seen`. -/
  | barred (why : Errno) (seen : Bool)
deriving Repr, DecidableEq

/-- What is known to be there; the root is always a directory. -/
abbrev Tree := List (Place × Node)

namespace Tree

/-- What is at a place, without following a link there. -/
def at? (tree : Tree) (place : Place) : Option Node :=
  if place.isEmpty then some .directory else tree.lookup place

/-- Puts a node at a place, with the directories above it. -/
def insert (tree : Tree) (place : Place) (node : Node) : Tree :=
  let above := (List.range place.length).map fun n => (place.take n, Node.directory)
  let missing := above.filter fun (p, _) => !p.isEmpty && (tree.lookup p).isNone
  missing ++ (place, node) :: tree.filter (·.1 != place)

/-- Can names be looked up in every directory above the place? -/
def isOpen (tree : Tree) (place : Place) : Bool :=
  (List.range place.length).all fun n => tree.at? (place.take n) == some .directory

/-- What is seen at a place by looking from the root down, without following links. -/
def seen? (tree : Tree) (place : Place) : Option Node :=
  if tree.isOpen place then tree.at? place else none

end Tree

/-- The names in a path text. A slash at its end asks for a directory, which an empty name tells. -/
def namesIn (path : String) : List String :=
  let pieces := Path.splitSlashes path.toList
  let names := (pieces.filter (· != [])).map String.ofList
  if pieces.getLast? == some [] && !names.isEmpty then names ++ [""] else names

/-- Does the path text begin at the root? -/
def isRooted (path : String) : Bool := path.toList.head? == some '/'

/-- Where a path text starts when it is used at a place. -/
def startOf (cwd : Place) (path : String) : Place := if isRooted path then [] else cwd

/-- The longest name in octets. -/
def nameLimit : Nat := 255

/-- How many links may be followed on one walk. -/
def linkLimit : Nat := 40

/-- The longest path text in octets. -/
def pathLimit : Nat := 4095

/-- Follows names from a place on. `enter` goes on from where the text of a link starts, along its
names and those after it. -/
def followNames (tree : Tree) (enter : Place → List String → Except Errno Place) :
    Place → List String → Except Errno Place
  | place, [] => .ok place
  | place, name :: rest =>
    match tree.at? place with
    | none => .error .notFound
    | some (.file _ _) | some (.link _) | some (.sealed _) => .error .notDirectory
    | some (.barred why _) =>
      if name.isEmpty then followNames tree enter place rest else .error why
    | some .directory =>
      if name.isEmpty || name == "." then followNames tree enter place rest
      else if name == ".." then followNames tree enter place.dropLast rest
      else if nameLimit < name.utf8ByteSize then .error .nameTooLong
      else
        match tree.at? (place ++ [name]) with
        | none => .error .notFound
        | some (.link target) =>
          if target.isEmpty then .error .notFound
          else enter (startOf place target) (namesIn target ++ rest)
        | some (.barred why false) => .error why
        | some _ => followNames tree enter (place ++ [name]) rest

/-- Follows names from a place on, with a limit on the links on the way. -/
def followWithin (tree : Tree) : Nat → Place → List String → Except Errno Place
  | 0 => followNames tree fun _ _ => .error .linkLoop
  | limit + 1 => followNames tree (followWithin tree limit)

/-- The place that a path text leads to, links followed. -/
def walk (tree : Tree) (cwd : Place) (path : String) : Except Errno Place :=
  if path.isEmpty then .error .notFound
  else if pathLimit < path.utf8ByteSize then .error .nameTooLong
  else followWithin tree linkLimit (startOf cwd path) (namesIn path)

/-- What a path text leads to, links followed. -/
def stat (tree : Tree) (cwd : Place) (path : String) : Except Errno Node := do
  let place ← walk tree cwd path
  match tree.at? place with
  | some node => .ok node
  | none => .error .notFound

/-- Is there something at the end of the path? A null character is in no path. Where the system refuses
to look for another reason than that something is missing, nothing can be said. -/
def probe (tree : Tree) (cwd : Place) (path : String) : Except AccessFault Bool :=
  if path.toList.contains '\x00' then .ok false
  else
    match stat tree cwd path with
    | .ok _ => .ok true
    | .error why => if why.isAbsence then .ok false else .error ⟨why, path⟩

/-- The content of the file at the end of the path. -/
def readFile (tree : Tree) (cwd : Place) (path : String) : Except Errno (List UInt8) := do
  match ← stat tree cwd path with
  | .file content _ => .ok content
  | .sealed why | .barred why _ => .error why
  | _ => .error .isDirectory

end PlaybookLint.Files
