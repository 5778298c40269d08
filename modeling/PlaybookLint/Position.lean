import PlaybookLint.Validation.Coerce

/-!
Positions and ranges in a document, lines and columns counted from zero. Tools count from one; a
coordinate that would fall below zero is moved to zero.
-/

namespace PlaybookLint

structure Position where
  line : Nat
  column : Nat
deriving Repr, DecidableEq

structure Range where
  start : Position
  stop : Position
deriving Repr, DecidableEq

namespace Position

/-- The position that a tool counts from one. -/
def ofOneBased (line column : Int) : Position := ⟨(line - 1).toNat, (column - 1).toNat⟩

/-- The order of reading. -/
def precedes (p q : Position) : Bool :=
  p.line < q.line || (p.line == q.line && p.column < q.column)

/-- Checks a line and a column. -/
def check (line column : Datum) : Checked Position :=
  ((line.asNatural.under "line").both (column.asNatural.under "column")).map fun (l, c) => ⟨l, c⟩

def ofDatum (d : Datum) : Checked Position :=
  (d.asEntries "Position").bind fun entries =>
    ((Datum.required entries "line" Datum.asNatural).both
      (Datum.required entries "column" Datum.asNatural)).map fun (l, c) => ⟨l, c⟩

def toDatum (p : Position) : Datum := .list [.integer p.line, .integer p.column]

end Position

namespace Range

/-- The range of one column that begins at a position. -/
def oneColumn (p : Position) : Range := ⟨p, ⟨p.line, p.column + 1⟩⟩

/-- The first column of the document. -/
def fileStart : Range := oneColumn ⟨0, 0⟩

/-- The range of one column at a place that a tool counts from one; without a column, or with column
zero, it is the first of the line. -/
def ofReport (line : Int) (column : Option Int) : Range :=
  let column := match column with
    | none | some 0 => 1
    | some c => c
  oneColumn (Position.ofOneBased line column)

/-- The range between two positions, which must be in order. -/
def between (start stop : Position) : Checked Range :=
  if stop.precedes start then
    Checked.complain (.rejected "range end must not precede range start")
  else .ok ⟨start, stop⟩

def ofDatum (d : Datum) : Checked Range := do
  let entries ← d.asEntries "Range"
  let (start, stop) ← (Datum.required entries "start" Position.ofDatum).both
    (Datum.required entries "end" Position.ofDatum)
  between start stop

def toDatum (r : Range) : Datum := .list [r.start.toDatum, r.stop.toDatum]

end Range

end PlaybookLint
