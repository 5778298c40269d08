import PlaybookLint.Console
import PlaybookLint.Datum.Text

/-!
Showing messages on a console with settings of any kind. A setting counts by whether it is on; a
colour that is not set is that of the terminal. Settings are told apart by their values, so that one
which may change, a list or a table, is refused.
-/

namespace PlaybookLint.Console

/-- How messages are shown, as it was given. -/
structure Manner where
  emoji : Datum
  colour : Datum
  toErrors : Datum
deriving Repr

/-- Why a message is not shown. -/
inductive NotifierFault where
  | unexpected (callee name : String)
  | repeated (callee name : String)
  | missing (callee name : String)
  | unhashable (kind : String)
  /-- A detail that is no text cannot be trimmed. -/
  | untrimmable (kind : String)
deriving Repr, DecidableEq

def NotifierFault.message : NotifierFault → String
  | .unexpected callee name => s!"{callee}() got an unexpected keyword argument {Text.quoted name}"
  | .repeated callee name => s!"{callee}() got multiple values for argument {Text.quoted name}"
  | .missing callee name =>
    s!"{callee}() missing 1 required keyword-only argument: {Text.quoted name}"
  | .unhashable kind => s!"unhashable type: '{kind}'"
  | .untrimmable kind => s!"'{kind}' object has no attribute 'strip'"

/-- What is written, and where. -/
structure Shown where
  toErrors : Bool
  text : String
deriving Repr, DecidableEq

/-- The values under the names that something is called with. `taken` names have a value already. -/
def checkNames (callee : String) (taken known : List String) :
    Entries → Except NotifierFault Unit
  | [] => .ok ()
  | (name, _) :: rest =>
    if taken.contains name then .error (.repeated callee name)
    else if known.contains name then checkNames callee taken known rest
    else .error (.unexpected callee name)

mutual

/-- The kind of the part of a value that may change; what has no such part can be told apart. -/
def changeable? : Datum → Option String
  | .list items => some (Datum.list items).kindName
  | .set false items => some (Datum.set false items).kindName
  | .table entries => some (Datum.table entries).kindName
  | .tuple items => firstChangeable? items
  | _ => none

/-- The kind of the first of several values that may change. -/
def firstChangeable? : List Datum → Option String
  | [] => none
  | item :: rest => (changeable? item).or (firstChangeable? rest)

end

namespace Manner

/-- Messages of a notifier have symbols and go where errors go. -/
def default : Manner := ⟨.flag true, .null, .flag true⟩

/-- The manner of a notifier with the values that are given. -/
def register (given : Entries) : Except NotifierFault Manner := do
  checkNames "ConsoleNotifier.__init__" [] ["use_emoji", "use_color", "stderr"] given
  return { emoji := (given.value? "use_emoji").getD default.emoji
           colour := (given.value? "use_color").getD default.colour
           toErrors := (given.value? "stderr").getD default.toErrors }

/-- The manner that a single message is given along with its tone; the emoji setting has to be
there. -/
def ofCall (tone : String) (given : Entries) : Except NotifierFault Manner := do
  checkNames tone ["msg"] ["use_emoji", "use_color", "stderr"] given
  match given.value? "use_emoji" with
  | none => throw (.missing tone "use_emoji")
  | some emoji =>
    return ⟨emoji, (given.value? "use_color").getD .null, (given.value? "stderr").getD (.flag false)⟩

/-- Is the colour on, asked for or because there is a terminal? -/
def colourOr (m : Manner) (terminal : Bool) : Datum :=
  match m.colour with
  | .null => .flag terminal
  | other => other

/-- Shows with a style, unless a setting is refused. -/
def shown (m : Manner) (terminal : Bool) (text : Style → String) : Except NotifierFault Shown :=
  let colour := m.colourOr terminal
  match firstChangeable? [colour, m.emoji, m.toErrors] with
  | some kind => .error (.unhashable kind)
  | none => .ok ⟨m.toErrors.isOn, text ⟨m.emoji.isOn, colour.isOn && terminal⟩⟩

/-- Shows a message of a tone. -/
def tell (m : Manner) (terminal : Bool) (tone : Tone) (message : Datum) :
    Except NotifierFault Shown :=
  m.shown terminal fun style => Console.message style tone message.plain

/-- Shows a notice with the values that are given along with its message. -/
def notify (m : Manner) (terminal : Bool) (grade : NoticeGrade) (message : Datum) (given : Entries) :
    Except NotifierFault Shown := do
  checkNames s!"ConsoleNotifier.add_{grade.name}" ["self", "message"] ["detail", "dismissable"] given
  match (given.value? "detail").getD (.text "") with
  | .text detail =>
    m.shown terminal fun style => Console.notice style ⟨grade, message.plain, detail, false⟩
  | other => do
    let _ ← m.shown terminal fun _ => ""
    throw (.untrimmable other.kindName)

end Manner

end PlaybookLint.Console
