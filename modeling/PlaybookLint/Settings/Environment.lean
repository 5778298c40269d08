import PlaybookLint.Datum
import PlaybookLint.Text.Word

/-!
References to the environment in texts of settings: a dollar sign before a run of word characters, or
before a name in braces. A reference to a variable that is set is replaced by its value, once and for
all; any other is left as it stands.
-/

namespace PlaybookLint.Environment

/-- A run of word characters, and how many characters it takes. -/
def bareName? (s : List Char) : Option (List Char × Nat) :=
  let name := s.takeWhile Text.isWord
  if name.isEmpty then none else some (name, name.length)

/-- A name in braces, and how many characters it takes with them. -/
def bracedName? : List Char → Option (List Char × Nat)
  | '\x7b' :: rest =>
    let name := rest.takeWhile (· != '\x7d')
    if name.isEmpty || (rest.drop name.length).isEmpty then none else some (name, name.length + 2)
  | _ => none

/-- The name that a reference gives after its dollar sign, and how many characters it takes. -/
def reference? (s : List Char) : Option (List Char × Nat) := (bareName? s) <|> (bracedName? s)

/-- Expands the references in a text from left to right; `skipped` characters belong to a reference
that is done with. -/
def expandFrom (lookup : String → Option String) : Nat → List Char → List Char
  | _, [] => []
  | skipped + 1, _ :: rest => expandFrom lookup skipped rest
  | 0, c :: rest =>
    match (if c == '$' then reference? rest else none) with
    | none => c :: expandFrom lookup 0 rest
    | some (name, taken) =>
      let replaced :=
        match lookup (String.ofList name) with
        | some value => value.toList
        | none => c :: rest.take taken
      replaced ++ expandFrom lookup taken rest

/-- Expands the references in a text. -/
def expandText (lookup : String → Option String) (s : String) : String :=
  String.ofList (expandFrom lookup 0 s.toList)

mutual

/-- Expands the references in a text or in the texts of a list, however deep; other values are left
alone. -/
def expandValue (lookup : String → Option String) : Datum → Datum
  | .text s => .text (expandText lookup s)
  | .list items => .list (expandValues lookup items)
  | other => other

def expandValues (lookup : String → Option String) : List Datum → List Datum
  | [] => []
  | item :: rest => expandValue lookup item :: expandValues lookup rest

end

/-- The key whose value is a pattern, where a dollar sign has a meaning of its own. -/
def rawKey : String := "blacklist"

/-- Expands the references in all values but that of the raw key. -/
def expandEntries (lookup : String → Option String) (entries : Entries) : Entries :=
  entries.map fun (key, value) => (key, if key == rawKey then value else expandValue lookup value)

end PlaybookLint.Environment
