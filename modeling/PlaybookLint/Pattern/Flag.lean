/-!
Flags of a search pattern, as the set of those that are on.
-/

namespace PlaybookLint.Pattern

structure Flags where
  ignoreCase : Bool := false
  multiline : Bool := false
  dotAll : Bool := false
  verbose : Bool := false
  ascii : Bool := false
  unicode : Bool := false
  template : Bool := false
deriving Repr, DecidableEq

/-- One flag. -/
inductive Flag where
  | ignoreCase
  | multiline
  | dotAll
  | verbose
  | ascii
  | unicode
  | template
  | locale
deriving Repr, DecidableEq

namespace Flag

def ofChar? : Char → Option Flag
  | 'i' => some .ignoreCase
  | 'm' => some .multiline
  | 's' => some .dotAll
  | 'x' => some .verbose
  | 'a' => some .ascii
  | 'u' => some .unicode
  | 't' => some .template
  | 'L' => some .locale
  | _ => none

/-- Does the flag choose the kind of characters? At most one such flag may be on in a group. -/
def choosesKind : Flag → Bool
  | .ascii | .unicode | .locale => true
  | _ => false

end Flag

namespace Flags

def union (f g : Flags) : Flags where
  ignoreCase := f.ignoreCase || g.ignoreCase
  multiline := f.multiline || g.multiline
  dotAll := f.dotAll || g.dotAll
  verbose := f.verbose || g.verbose
  ascii := f.ascii || g.ascii
  unicode := f.unicode || g.unicode
  template := f.template || g.template

def without (f g : Flags) : Flags where
  ignoreCase := f.ignoreCase && !g.ignoreCase
  multiline := f.multiline && !g.multiline
  dotAll := f.dotAll && !g.dotAll
  verbose := f.verbose && !g.verbose
  ascii := f.ascii && !g.ascii
  unicode := f.unicode && !g.unicode
  template := f.template && !g.template

def insert (f : Flags) : Flag → Flags
  | .ignoreCase => { f with ignoreCase := true }
  | .multiline => { f with multiline := true }
  | .dotAll => { f with dotAll := true }
  | .verbose => { f with verbose := true }
  | .ascii => { f with ascii := true }
  | .unicode => { f with unicode := true }
  | .template => { f with template := true }
  | .locale => f

def isEmpty (f : Flags) : Bool := f == {}

/-- Do two sets share a flag? -/
def meets (f g : Flags) : Bool := f.without (f.without g) != {}

/-- The flags inside a group that turns `added` on and `removed` off; a flag that chooses the kind of
characters replaces the one in force. -/
def inGroup (f added removed : Flags) : Flags :=
  let base := if added.ascii || added.unicode then { f with ascii := false, unicode := false } else f
  (base.union added).without removed

end Flags

end PlaybookLint.Pattern
