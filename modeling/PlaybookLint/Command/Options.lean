import PlaybookLint.Datum
import PlaybookLint.Path
import PlaybookLint.Text.Quoted

/-!
How a command is to be run: where, in which environment, for how long, and what becomes of its
output. Options may be overridden by values under their names.
-/

namespace PlaybookLint.Command

/-- Options of a command. The time limit is kept as it was given, in seconds, and so are the values of
the environment. -/
structure Options where
  cwd : Option Path
  env : Option Entries
  captureOutput : Bool
  text : Bool
  timeout : Datum
  discardInput : Bool
deriving Repr

namespace Options

/-- Why values do not make options. -/
inductive Refusal where
  | unknown (names : List String)
  /-- A name that is no option, among values that are to be used as they are. -/
  | unexpected (name : String)
  | negativeTimeout
deriving Repr, DecidableEq

def Refusal.message : Refusal → String
  | .unknown names => "Unknown command option(s): " ++ ", ".intercalate names
  | .unexpected name => s!"CommandOptions.__init__() got an unexpected keyword argument {Text.quoted name}"
  | .negativeTimeout => "timeout override must be non-negative"

/-- The values that options have unless told otherwise, under their names. -/
def defaults : Entries :=
  [("cwd", .null), ("env", .null), ("capture_output", .flag true), ("text", .flag true),
    ("timeout", .null), ("discard_stdin", .flag true)]

/-- Is the value a number below zero? -/
def isNegative : Datum → Bool
  | .integer i => i < 0
  | .decimal x => x.isNegative
  | _ => false

def pathOf? : Datum → Option Path
  | .text s => some (Path.ofText s)
  | _ => none

def environmentOf? : Datum → Option Entries
  | .table entries => some entries
  | _ => none

/-- The options that values stand for. -/
def ofEntries (values : Entries) : Options :=
  let value (name : String) : Datum := (values.value? name).getD .null
  { cwd := pathOf? (value "cwd")
    env := environmentOf? (value "env")
    captureOutput := (value "capture_output").isOn
    text := (value "text").isOn
    timeout := value "timeout"
    discardInput := (value "discard_stdin").isOn }

/-- The text of the directory as a path has it. -/
def tidyDirectory : Entries → Entries :=
  List.map fun (name, value) =>
    match name, value with
    | "cwd", .text s => (name, .text (Path.ofText s).text)
    | _, _ => (name, value)

/-- The values that options are made with. Every name must be that of an option; a directory is taken
for a path. -/
def make (given : Entries) : Except Refusal Entries :=
  match (given.map (·.1)).find? (!defaults.has ·) with
  | some name => .error (.unexpected name)
  | none => .ok (defaults.putAll (tidyDirectory given))

/-- Overrides values, which are kept as they are given. Every name must be that of an option, and the
time limit must not end up below zero. -/
def override (values overrides : Entries) : Except Refusal Entries :=
  let unknown := (overrides.map (·.1)).filter (!defaults.has ·)
  let after := values.putAll overrides
  if !unknown.isEmpty then .error (.unknown (unknown.mergeSort fun a b => !decide (b < a)))
  else if isNegative ((after.value? "timeout").getD .null) then .error .negativeTimeout
  else .ok after

end Options

end PlaybookLint.Command
