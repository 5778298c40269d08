import PlaybookLint.Run
import PlaybookLint.Text.Lines
import PlaybookLint.Text.Width

/-!
Messages on a console. A message has a tone, which decides its symbol and its colour. Tabs lead to the
next stop of eight cells, controls that move the cursor are dropped, and lines are never broken.
-/

namespace PlaybookLint.Console

inductive Tone where
  | info
  | ok
  | warning
  | failure
deriving Repr, DecidableEq

/-- The symbol in front of a message, with the blank after it. -/
def Tone.symbol : Tone → String
  | .info => "ℹ️ "
  | .ok => "✅ "
  | .warning => "⚠️ "
  | .failure => "❌ "

/-- The number of the colour of a message. -/
def Tone.colour : Tone → Nat
  | .info => 36
  | .ok => 32
  | .warning => 33
  | .failure => 31

/-- How messages are shown. -/
structure Style where
  emoji : Bool
  coloured : Bool
deriving Repr, DecidableEq

/-- The controls that are dropped: bell, backspace, vertical tab, form feed, carriage return. -/
def isDropped (c : Char) : Bool := [7, 8, 11, 12, 13].contains c.toNat

/-- Cells between two tab stops. -/
def tabStop : Nat := 8

/-- The pieces of a line, each but the last up to a tab, which becomes blanks up to the next stop.
`column` cells are before the piece at work. -/
def pieces (column : Nat) (piece : List Char) : List Char → List (List Char)
  | [] => if piece.isEmpty then [] else [piece]
  | c :: rest =>
    if c == '\t' then
      let written := piece ++ [' ']
      let reached := column + Text.cells written
      let padding := (tabStop - reached % tabStop) % tabStop
      (written ++ List.replicate padding ' ') :: pieces (reached + padding) [] rest
    else pieces column (piece ++ [c]) rest

/-- A piece of a line in a colour, or as it is. -/
def paint (colour : Option Nat) (piece : List Char) : String :=
  match colour with
  | some n => s!"\x1b[{n}m" ++ String.ofList piece ++ "\x1b[0m"
  | none => String.ofList piece

/-- A line as it is shown. -/
def showLine (colour : Option Nat) (line : List Char) : String :=
  String.join ((pieces 0 [] line).map (paint colour))

/-- A text as it is shown, with the line feed after it. -/
def showText (colour : Option Nat) (s : String) : String :=
  let kept := s.toList.filter (!isDropped ·)
  "\n".intercalate ((Text.splitLines kept).map (showLine colour)) ++ "\n"

/-- A text without tone and colour. -/
def plain (s : String) : String := showText none s

/-- A message of a tone. -/
def message (style : Style) (tone : Tone) (s : String) : String :=
  showText (if style.coloured then some tone.colour else none)
    ((if style.emoji then tone.symbol else "") ++ s)

/-- The tone of a notice. -/
def toneOf : NoticeGrade → Tone
  | .warning => .warning
  | .error => .failure

/-- A notice: its message, and below it what there is of detail. -/
def notice (style : Style) (n : Notice) : String :=
  let detail :=
    if Text.isAllBlank n.detail then ""
    else message { style with emoji := false } .info (Text.trimRight n.detail)
  message style (toneOf n.grade) n.message ++ detail

end PlaybookLint.Console
