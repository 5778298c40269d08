/-!
Trouble that comes from outside: from the linter program, or from a handler of failures that is not
one of the library's own. Only its kind and its message are known.
-/

namespace PlaybookLint

/-- The kinds of trouble, as far as it matters whether a run survives them. -/
inductive TroubleKind where
  | adapter
  | system
  | value
  | foreign (name : String)
deriving Repr, DecidableEq

/-- Why something from outside brought back nothing. -/
structure Trouble where
  kind : TroubleKind
  message : String
deriving Repr, DecidableEq

end PlaybookLint
