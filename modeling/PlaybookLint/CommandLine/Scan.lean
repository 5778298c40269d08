/-!
Taking the words of a command line apart into options and arguments. Options with a value take it from
the same word after an equals sign, or from the next word, whatever that is; options of one letter may
stand together in a word, the last of them with its value. Two hyphens end the options.
-/

namespace PlaybookLint.CommandLine

/-- Why a command line cannot be followed. -/
inductive UsageError where
  | noCommand
  | unknownCommand (name : String)
  | unknownOption (name : String)
  | missingValue (name : String)
  | unexpectedValue (name : String)
  | badValue (key value : String)
  | noFiles
  | unexpectedArgument (word : String)
deriving Repr, DecidableEq

/-- A way to write an option. A flag stands for a fixed value. -/
structure OptionForm where
  name : String
  key : String
  fixed : Option String
deriving Repr, DecidableEq

/-- An option that takes a value, under its own name. -/
def OptionForm.valued (name : String) : OptionForm := ⟨name, name, none⟩

/-- An option that takes a value, and a letter for it. -/
def OptionForm.lettered (name letter : String) : List OptionForm :=
  [⟨name, name, none⟩, ⟨letter, name, none⟩]

/-- A flag. -/
def OptionForm.flag (name : String) : OptionForm := ⟨name, name, some "yes"⟩

/-- A flag and its opposite. -/
def OptionForm.pair (name opposite : String) : List OptionForm :=
  [⟨name, name, some "yes"⟩, ⟨opposite, name, some "no"⟩]

/-- An option as it was given. -/
structure Given where
  key : String
  value : String
deriving Repr, DecidableEq

/-- What the words of a command line hold. -/
structure Scanned where
  options : List Given
  arguments : List String
deriving Repr, DecidableEq

namespace Scanned

/-- The value of an option; of several the last counts. -/
def last? (s : Scanned) (key : String) : Option String :=
  (s.options.reverse.find? (·.key == key)).map (·.value)

/-- All values of an option. -/
def all (s : Scanned) (key : String) : List String :=
  (s.options.filter (·.key == key)).map (·.value)

/-- Is a flag set? Nothing is known of one that was not given. -/
def flag? (s : Scanned) (key : String) : Option Bool := (s.last? key).map (· == "yes")

def isSet (s : Scanned) (key : String) : Bool := (s.flag? key).getD false

def withOptions (s : Scanned) (given : List Given) : Scanned :=
  { s with options := given ++ s.options }

def withArgument (s : Scanned) (word : String) : Scanned :=
  { s with arguments := word :: s.arguments }

end Scanned

/-- Does a word give an option? A lone hyphen does not. -/
def isOption (word : String) : Bool :=
  match word.toList with
  | '-' :: _ :: _ => true
  | _ => false

/-- Options read from one word, and the key of one that takes its value from the next word. -/
abbrev WordReading := Except UsageError (List Given × Option String)

/-- Reads letters that stand together. -/
def readLetters (forms : List OptionForm) : List Char → WordReading
  | [] => .ok ([], none)
  | c :: rest =>
    let name := String.ofList ['-', c]
    match forms.find? (·.name == name) with
    | none => .error (.unknownOption name)
    | some form =>
      match form.fixed with
      | some value => do
        let (given, pending) ← readLetters forms rest
        return (⟨form.key, value⟩ :: given, pending)
      | none =>
        if rest.isEmpty then .ok ([], some form.key)
        else .ok ([⟨form.key, String.ofList rest⟩], none)

/-- The name in a word and the value after an equals sign. -/
def splitEquals (word : List Char) : String × Option String :=
  let name := String.ofList (word.takeWhile (· != '='))
  match word.dropWhile (· != '=') with
  | [] => (name, none)
  | _ :: value => (name, some (String.ofList value))

/-- Is the name of a form longer than one letter? -/
def OptionForm.isLong (f : OptionForm) : Bool := 2 < f.name.length

/-- Reads the options of a word. -/
def readOption (forms : List OptionForm) (word : String) : WordReading :=
  let (name, value?) := splitEquals word.toList
  match forms.find? fun f => f.isLong && f.name == name with
  | some form =>
    match form.fixed, value? with
    | some value, none => .ok ([⟨form.key, value⟩], none)
    | some _, some _ => .error (.unexpectedValue name)
    | none, some value => .ok ([⟨form.key, value⟩], none)
    | none, none => .ok ([], some form.key)
  | none =>
    match word.toList with
    | '-' :: '-' :: _ => .error (.unknownOption name)
    | _ :: letters => readLetters forms letters
    | [] => .error (.unknownOption name)

/-- Takes the words of a command line apart. -/
def scan (forms : List OptionForm) : List String → Except UsageError Scanned
  | [] => .ok ⟨[], []⟩
  | word :: rest =>
    if word == "--" then .ok ⟨[], rest⟩
    else if !isOption word then (scan forms rest).map (·.withArgument word)
    else
      match readOption forms word, rest with
      | .error e, _ => .error e
      | .ok (given, none), rest => (scan forms rest).map (·.withOptions given)
      | .ok (_, some key), [] => .error (.missingValue key)
      | .ok (given, some key), value :: rest =>
        (scan forms rest).map (·.withOptions (given ++ [⟨key, value⟩]))

end PlaybookLint.CommandLine
