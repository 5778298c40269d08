import PlaybookLint.Datum.Calendar
import PlaybookLint.Decimal.Shortest

/-!
Values of settings, whatever document or program they come from. A table keeps the order of its
entries, and a set the order in which it gives its items.
-/

namespace PlaybookLint

inductive Datum where
  | null
  | flag (b : Bool)
  | integer (i : Int)
  | decimal (x : Binary64)
  | text (s : String)
  | octets (bytes : List UInt8)
  | list (items : List Datum)
  /-- A list that cannot change. -/
  | tuple (items : List Datum)
  /-- A set, which may change unless it is frozen. -/
  | set (frozen : Bool) (items : List Datum)
  | table (entries : List (String × Datum))
  | date (d : CalendarDate)
  | time (t : TimeOfDay)
  | moment (m : Moment)
deriving Repr

/-- Entries of a table in order. -/
abbrev Entries := List (String × Datum)

namespace Entries

/-- The value under a key; of several entries with one key the last counts. -/
def value? (entries : Entries) (key : String) : Option Datum :=
  match entries with
  | [] => none
  | (k, v) :: rest =>
    match value? rest key with
    | some later => some later
    | none => if k == key then some v else none

def has (entries : Entries) (key : String) : Bool := entries.any (·.1 == key)

/-- Puts a value under a key; a key that is there keeps its place. -/
def put (entries : Entries) (key : String) (value : Datum) : Entries :=
  if entries.has key then entries.map fun (k, v) => if k == key then (k, value) else (k, v)
  else entries ++ [(key, value)]

/-- Puts all entries of the second table into the first, in order. -/
def putAll (entries later : Entries) : Entries :=
  later.foldl (fun all (k, v) => all.put k v) entries

end Entries

namespace Datum

def isNull : Datum → Bool
  | .null => true
  | _ => false

/-- Does the value count as true? Nothing, zero and whatever is empty do not. -/
def isOn : Datum → Bool
  | .null => false
  | .flag b => b
  | .integer i => i != 0
  | .decimal x => x == .notANumber || x.isPositive || x.isNegative
  | .text s => !s.isEmpty
  | .octets bytes => !bytes.isEmpty
  | .list items | .tuple items | .set _ items => !items.isEmpty
  | .table entries => !entries.isEmpty
  | .date _ | .time _ | .moment _ => true

/-- What messages call values of this kind. -/
def kindName : Datum → String
  | .null => "NoneType"
  | .flag _ => "bool"
  | .integer _ => "int"
  | .decimal _ => "float"
  | .text _ => "str"
  | .octets _ => "bytes"
  | .list _ => "list"
  | .tuple _ => "tuple"
  | .set frozen _ => if frozen then "frozenset" else "set"
  | .table _ => "dict"
  | .date _ => "datetime.date"
  | .time _ => "datetime.time"
  | .moment _ => "datetime.datetime"

/-- The number that a value is, as a quotient; a flag is one or zero. -/
def quotient? : Datum → Option (Int × Nat)
  | .flag b => some (if b then 1 else 0, 1)
  | .integer i => some (i, 1)
  | .decimal (.finite negative mantissa exponent) =>
    let (num, den) := Binary64.ratio mantissa exponent
    some (if negative then -num else num, den)
  | _ => none

/-- Are two values without parts equal? Numbers are compared by what they come to. -/
def equals (a b : Datum) : Bool :=
  match a, b with
  | .null, .null => true
  | .text s, .text t => s == t
  | .octets s, .octets t => s == t
  | .decimal (.infinite m), .decimal (.infinite n) => m == n
  | a, b =>
    match a.quotient?, b.quotient? with
    | some (m, p), some (n, q) => m * q == n * p
    | _, _ => false

/-- The value under a key of a table. -/
def get? (d : Datum) (key : String) : Option Datum :=
  match d with
  | .table entries => Entries.value? entries key
  | _ => none

end Datum

end PlaybookLint
