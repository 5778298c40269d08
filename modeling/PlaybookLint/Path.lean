/-!
Path texts in the manner of POSIX. A path is an anchor and its parts; empty parts and single dots
vanish, double dots stay, and exactly two leading slashes are an anchor of their own. Nothing here
looks at a file system.
-/

namespace PlaybookLint

/-- What a path starts from. -/
inductive Anchor where
  | here
  | slash
  | doubleSlash
deriving Repr, DecidableEq

def Anchor.text : Anchor → String
  | .here => ""
  | .slash => "/"
  | .doubleSlash => "//"

/-- A path in normal form. -/
structure Path where
  anchor : Anchor
  parts : List String
deriving Repr, DecidableEq

namespace Path

/-- The pieces between slashes, empty ones included. -/
def splitSlashes : List Char → List (List Char)
  | [] => [[]]
  | '/' :: rest => [] :: splitSlashes rest
  | c :: rest =>
    match splitSlashes rest with
    | [] => [[c]]
    | piece :: pieces => (c :: piece) :: pieces

/-- Does a piece between slashes name something? -/
def isPart (piece : List Char) : Bool := piece != [] && piece != ['.']

/-- The parts of a path text, its leading slashes aside. -/
def partsOf (s : List Char) : List String :=
  ((splitSlashes s).filter isPart).map String.ofList

/-- The anchor that leading slashes stand for. -/
def anchorOf : List Char → Anchor
  | '/' :: '/' :: '/' :: _ => .slash
  | '/' :: '/' :: _ => .doubleSlash
  | '/' :: _ => .slash
  | _ => .here

/-- Reads a path text. -/
def ofText (s : String) : Path := ⟨anchorOf s.toList, partsOf s.toList⟩

/-- Writes a path; the path without anchor and parts is a single dot. -/
def text (p : Path) : String :=
  match p.anchor, p.parts with
  | .here, [] => "."
  | anchor, parts => anchor.text ++ "/".intercalate parts

def isAbsolute (p : Path) : Bool := p.anchor != .here

/-- The second path as seen from the first; an absolute one stands for itself. -/
def join (base other : Path) : Path :=
  if other.isAbsolute then other else ⟨base.anchor, base.parts ++ other.parts⟩

/-- One part further down. -/
def child (p : Path) (name : String) : Path := p.join (ofText name)

/-- The path without its last part; a path without parts is its own parent. -/
def parent (p : Path) : Path := ⟨p.anchor, p.parts.dropLast⟩

/-- The initial segments of a list, longest first, the list itself included. -/
def shorten : List String → List (List String)
  | [] => [[]]
  | part :: rest => (shorten rest).map (part :: ·) ++ [[]]

/-- The path and all its ancestors, the nearest first. -/
def upward (p : Path) : List Path := (shorten p.parts).map (⟨p.anchor, ·⟩)

end Path

end PlaybookLint
