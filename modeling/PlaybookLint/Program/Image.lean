import PlaybookLint.Files.Tree
import PlaybookLint.Text.Utf8

/-!
Starting a program. A path leads to a file that the system can run by itself, or to one that names the
program it is written for in its first line; that program is then started with the path before the
other words.
-/

namespace PlaybookLint.Program

/-- A program that has been found: the file that the path led to, the file that runs, which is another
one if the first is written for it, what it is called and its words. -/
structure Image where
  file : Files.Place
  runner : Files.Place
  called : String
  words : List String
deriving Repr, DecidableEq

/-- How often a program may be written for a program that is written for another. -/
def nestingLimit : Nat := 5

def isBlank (c : Char) : Bool := c == ' ' || c == '\t'

/-- The program that a file is written for, and the word that goes with it. -/
def interpreter? (content : List UInt8) : Option (String × Option String) :=
  let line := (Text.Utf8.decodeReplacing (content.takeWhile (· != 10))).toList
  match line with
  | '#' :: '!' :: rest =>
    let rest := ((rest.dropWhile isBlank).reverse.dropWhile isBlank).reverse
    let name := rest.takeWhile (!isBlank ·)
    let word := (rest.drop name.length).dropWhile isBlank
    if name.isEmpty then none
    else some (String.ofList name, if word.isEmpty then none else some (String.ofList word))
  | _ => none

/-- The longest word that a program can be given, in octets. -/
def wordLimit : Nat := 131071

/-- The file that a path leads to, if it may be run. -/
def runnable (tree : Files.Tree) (cwd : Files.Place) (path : String) :
    Except Errno (Files.Place × List UInt8) := do
  let place ← Files.walk tree cwd path
  match tree.at? place with
  | some (.file content true) => return (place, content)
  | some _ => throw .permission
  | none => throw .notFound

/-- Which files the system can run by themselves: those that hold machine code for it. What stands in
the way of running one may be told instead. -/
abbrev Native := Files.Tree → Files.Place → Except Errno Bool

/-- Starts the program at a path, seen from a directory; it is called by a name. -/
def loadWithin (native : Native) (tree : Files.Tree) (cwd : Files.Place) :
    Nat → String → String → List String → Except Errno Image
  | 0, _, _, _ => .error .linkLoop
  | limit + 1, called, path, words => do
    let (place, content) ← runnable tree cwd path
    if words.any (wordLimit < ·.utf8ByteSize) then throw .tooManyWords
    if ← native tree place then return ⟨place, place, called, words⟩
    else
      match interpreter? content with
      | none => throw .badFormat
      | some (name, word) =>
        let image ← loadWithin native tree cwd limit name name (word.toList ++ path :: words)
        return { image with file := place }

/-- Starts the program at a path, seen from a directory, with words. -/
def load (native : Native) (tree : Files.Tree) (cwd : Files.Place) (called path : String)
    (words : List String) : Except Errno Image :=
  loadWithin native tree cwd (nestingLimit + 1) called path words

/-- Starts the first of several programs that is there. What stands in the way of one that is there
counts for more than that others are not. -/
def loadFirst (loadAt : String → Except Errno Image) : Errno → List String → Except Errno Image
  | told, [] => .error told
  | told, path :: rest =>
    match loadAt path with
    | .ok image => .ok image
    | .error e =>
      loadFirst loadAt (if told.isMissing then e else told) rest

end PlaybookLint.Program
