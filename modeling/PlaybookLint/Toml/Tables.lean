import PlaybookLint.Toml.Refusal
import PlaybookLint.Datum

/-!
The tables of a document while it is read. Beside the values it is kept which tables have been
declared by name, and which values are closed to later additions.
-/

namespace PlaybookLint.Toml

/-- Something other than a table stands where a table is needed. -/
inductive Obstacle where
  | notATable
deriving Repr, DecidableEq

/-- The last of the items, if it is a table, with the items before it. -/
def lastTable? (items : List Datum) : Option (List Datum × Entries) :=
  match items.getLast? with
  | some (.table entries) => some (items.dropLast, entries)
  | _ => none

/-- Changes the table at a path, tables that are not there being made. A list of tables stands for
its last table if `throughLists` is set. -/
def within (throughLists : Bool) (change : Entries → Except Obstacle Entries) :
    Key → Entries → Except Obstacle Entries
  | [], entries => change entries
  | name :: path, entries =>
    match entries.value? name with
    | none => (within throughLists change path []).map fun inner => entries.put name (.table inner)
    | some (.table inner) =>
      (within throughLists change path inner).map fun inner => entries.put name (.table inner)
    | some (.list items) =>
      match throughLists, lastTable? items with
      | true, some (earlier, inner) =>
        (within throughLists change path inner).map fun inner =>
          entries.put name (.list (earlier ++ [.table inner]))
      | _, _ => .error .notATable
    | some _ => .error .notATable

/-- Adds an empty table to the list of tables under a name. -/
def appendTable (name : String) (entries : Entries) : Except Obstacle Entries :=
  match entries.value? name with
  | none => .ok (entries.put name (.list [.table []]))
  | some (.list items) => .ok (entries.put name (.list (items ++ [.table []])))
  | some _ => .error .notATable

/-- Is the value closed to later additions, as arrays and inline tables are? -/
def isClosed : Datum → Bool
  | .list _ | .table _ => true
  | _ => false

/-- Keys that have been declared and keys whose values are closed. -/
structure Marks where
  declared : List Key
  closed : List Key
deriving Repr, DecidableEq

namespace Marks

def none : Marks := ⟨[], []⟩

def isDeclared (m : Marks) (key : Key) : Bool := !key.isEmpty && m.declared.contains key

/-- Is the key, or one it lies under, closed? -/
def isClosed (m : Marks) (key : Key) : Bool := m.closed.any fun k => !k.isEmpty && k.isPrefixOf key

def declare (m : Marks) (key : Key) : Marks := { m with declared := key :: m.declared }

def close (m : Marks) (key : Key) : Marks := { m with closed := key :: m.closed }

/-- Forgets what is known of a key and of all keys under it. -/
def forget (m : Marks) (key : Key) : Marks :=
  ⟨m.declared.filter (!key.isPrefixOf ·), m.closed.filter (!key.isPrefixOf ·)⟩

end Marks

end PlaybookLint.Toml
