import PlaybookLint.Text.DecimalDigit
import PlaybookLint.Text.Blank
import PlaybookLint.Text.Occurrence

/-!
Phrases by which failures of the linter are recognised. A phrase is looked for from left to right;
where it captures a text, the text stays on one line and is as long as the line allows.
-/

namespace PlaybookLint.Failure

/-- What a phrase captured, group by group; a group that took no part has nothing. -/
abbrev Groups := List (Option String)

/-- Tries `here` at every place of the text, from left to right. -/
def firstPlace {α : Type} (here : List Char → Option α) : List Char → Option α
  | [] => here []
  | c :: rest =>
    match here (c :: rest) with
    | some a => some a
    | none => firstPlace here rest

/-- What follows the phrase, if the text begins with it. -/
def after? (phrase text : List Char) : Option (List Char) :=
  if phrase.isPrefixOf text then some (text.drop phrase.length) else none

/-- The rest of the line up to the last place where `stop` is found; `stop` must hold right there. -/
def upToLast (stop : List Char → Bool) : List Char → Option (List Char)
  | [] => if stop [] then some [] else none
  | c :: rest =>
    let later := if c == '\n' then none else upToLast stop rest
    match later with
    | some taken => some (c :: taken)
    | none => if stop (c :: rest) then some [] else none

/-- Does the text occur? -/
def mentions (phrase : String) (text : List Char) : Bool := Text.occurs phrase.toList text

/-- The text between an opening and the last closing phrase on the same line, at this very place. -/
def betweenHere (opening closing : String) (text : List Char) : Option (List Char) :=
  (after? opening.toList text).bind (upToLast closing.toList.isPrefixOf)

/-- The text between an opening and the last closing phrase on the same line. -/
def between (opening closing : String) (text : List Char) : Option (List Char) :=
  firstPlace (betweenHere opening closing) text

/-- Does the second phrase follow the first on the same line? -/
def mentionsOnLine (first second : String) (text : List Char) : Bool :=
  (between first second text).isSome

/-- A run of digits, at least one, and what follows it. -/
def digits? (text : List Char) : Option (List Char × List Char) :=
  let digits := text.takeWhile Text.isDecimalDigit
  if digits.isEmpty then none else some (digits, text.dropWhile Text.isDecimalDigit)

/-- What follows one blank. -/
def afterBlank? : List Char → Option (List Char)
  | [] => none
  | c :: rest => if Text.isBlank c then some rest else none

/-- A line and a column in words, at this very place. -/
def lineColumnHere (text : List Char) : Option (List Char × List Char) := do
  let text ← after? "line".toList text
  let text ← afterBlank? text
  let (line, text) ← digits? text
  let text ← after? ",".toList text
  let text ← afterBlank? text
  let text ← after? "column".toList text
  let text ← afterBlank? text
  let (column, _) ← digits? text
  return (line, column)

/-- The first line and column in words. -/
def lineColumn? (text : List Char) : Option (List Char × List Char) := firstPlace lineColumnHere text

/-- A line number after the name of a YAML file, and what follows it, at this very place. -/
def yamlLineHere (text : List Char) : Option (List Char × List Char) := do
  let text ← (after? ".yml:".toList text) <|> (after? ".yaml:".toList text)
  digits? text

/-- The rest of the line after a YAML file, a line number and a space, at this very place. -/
def yamlMessageHere (text : List Char) : Option (List Char) := do
  let (_, text) ← yamlLineHere text
  let text ← after? " ".toList text
  return text.takeWhile (· != '\n')

/-- The first message after a YAML file and a line number. -/
def yamlMessage? (text : List Char) : Option (List Char) := firstPlace yamlMessageHere text

/-- How the file of an error is told, with its closing phrase. -/
def errorFileOpening : String := "The error appears to be in '"

def errorFileClosing : String := "':"

/-- The file in which an error appears to be. -/
def errorFile? (text : List Char) : Option (List Char) :=
  between errorFileOpening errorFileClosing text

/-- Does a colon with a digit after it stand here? -/
def isColonDigit : List Char → Bool
  | ':' :: d :: _ => Text.isDecimalDigit d
  | _ => false

/-- The file of a task that could not be parsed, or in which an error appears to be, at this very
place. -/
def taskFileHere (text : List Char) : Option (List Char) :=
  (betweenHere errorFileOpening errorFileClosing text) <|>
    ((after? "parse task at ".toList text).bind (upToLast isColonDigit))

/-- The line of such an error, at this very place. -/
def taskLineHere (text : List Char) : Option (List Char) :=
  ((lineColumnHere text).map (·.1)) <|> ((yamlLineHere text).map (·.1))

/-- A text that is not empty. -/
def nonEmpty? (text : Option (List Char)) : Option String :=
  text.bind fun cs => if cs.isEmpty then none else some (String.ofList cs)

end PlaybookLint.Failure
