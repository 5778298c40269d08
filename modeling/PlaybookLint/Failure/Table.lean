import PlaybookLint.Failure.Handler

/-!
The table of known failures. Several phrases may stand in one text, so the rows are ordered from the
most specific cause to the least, and the first row that recognises the text counts. A row without a
handler marks output that is known to be harmless.
-/

namespace PlaybookLint.Failure

/-- A kind of failure: its name, how a text is recognised, and what is made of it. -/
structure Row where
  name : String
  find : String → Except Pattern.BrokenGroup (Option Groups)
  handler : Option Handler

abbrev Table := List Row

/-- The groups of a phrase that captures nothing. -/
def plain (found : Bool) : Option Groups := if found then some [] else none

def findMissingFile (text : String) : Option Groups :=
  (between "WARNING: Couldn't open " " - No such file or directory" text.toList).map
    fun path => [some (String.ofList path)]

/-- The three wordings of an unreadable file, each with its own group. -/
def unreadableHere (text : List Char) : Option Groups :=
  let take (opening closing : String) : Option String :=
    (betweenHere opening closing text).map String.ofList
  ((take "the file_name " " does not exist, or is not readable").map fun p => [some p, none, none])
    <|> ((take "Could not find or access '" "'").map fun p => [none, some p, none])
    <|> ((take "error occurred while trying to read the file '" "':").map
      fun p => [none, none, some p])

def findUnreadableFile (text : String) : Option Groups := firstPlace unreadableHere text.toList

def findYamlSyntax (text : String) : Option Groups :=
  plain (mentions "Syntax Error while loading YAML" text.toList)

def findAnsibleSyntax (text : String) : Option Groups :=
  plain (["raise AnsibleError", "raise AnsibleParserError", "Couldn't parse task at",
    "AttributeError"].any (mentions · text.toList))

def findVault (text : String) : Option Groups :=
  plain (mentionsOnLine "vault password" "decrypt" text.toList)

def findStdin (text : String) : Option Groups := plain (mentions ".dirname" text.toList)

def findSkipHint (text : String) : Option Groups :=
  plain (mentions "You can skip specific rules" text.toList)

namespace Table

/-- The releases of the linter that the default table speaks for. -/
def version : String := "ansible-lint>=3.5"

/-- The failures that are known by default. -/
def default : Table :=
  [⟨"missing-file", .ok ∘ findMissingFile, some .missingFile⟩,
   ⟨"unreadable-file", .ok ∘ findUnreadableFile, some .unreadableFile⟩,
   ⟨"yaml-syntax", .ok ∘ findYamlSyntax, some .yamlSyntax⟩,
   ⟨"ansible-syntax", .ok ∘ findAnsibleSyntax, some .ansibleSyntax⟩,
   ⟨"vault-encrypted", .ok ∘ findVault, some .vault⟩,
   ⟨"stdin", .ok ∘ findStdin, some .stdin⟩,
   ⟨"skip-rules-hint", .ok ∘ findSkipHint, none⟩]

/-- The default row of a name. -/
def defaultRow? (name : String) : Option Row := default.find? (·.name == name)

end Table

/-- A row whose phrase is a search pattern. -/
def Row.ofPattern (name : String) (pattern : Pattern) (handler : Option Handler) : Row :=
  ⟨name, pattern.search?, handler⟩

end PlaybookLint.Failure
