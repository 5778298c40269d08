/-!
How deep calls may nest. Readers of nested things go one call deeper, or several, for everything that
stands inside another; one that has no room left gives up.
-/

namespace PlaybookLint

/-- How many calls may still be nested when a pattern is compiled, when a document is read and the
references in it are replaced, and when a value is written out. -/
structure Room where
  patterns : Nat
  documents : Nat
  values : Nat
deriving Repr, DecidableEq

/-- What is left of the thousand calls that the interpreter allows where next to nothing else is at
work. -/
def Room.usual : Room := ⟨980, 980, 980⟩

end PlaybookLint
