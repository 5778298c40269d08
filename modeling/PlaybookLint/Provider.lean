import PlaybookLint.Datum
import PlaybookLint.Text.Occurrence
import PlaybookLint.Text.Quoted

/-!
What an editor is told about the linter: its name, the languages it is for and when it works. An
editor may register it with values of its own, which are kept as they are given.
-/

namespace PlaybookLint

structure Provider where
  name : Datum
  grammarScopes : Datum
  scope : Datum
  lintsOnChange : Datum
deriving Repr

namespace Provider

/-- Findings may be in any file that the linted one includes, and linting needs the file on disk, so
the linter works for the project and only when a file is saved. -/
def default : Provider where
  name := .text "Ansible-Lint"
  grammarScopes := .list [.text "source.ansible", .text "source.ansible-advanced"]
  scope := .text "project"
  lintsOnChange := .flag false

/-- Why a provider cannot be registered or asked. -/
inductive Refusal where
  | unexpected (name : String)
  /-- The languages are given by a value of a kind that has no members. -/
  | notIterable (kind : String)
  /-- Something other than a text is looked for in a text. -/
  | notText (kind : String)
deriving Repr, DecidableEq

def Refusal.message : Refusal → String
  | .unexpected name => s!"LinterProvider.__init__() got an unexpected keyword argument {Text.quoted name}"
  | .notIterable kind => s!"'{kind}' object is not iterable"
  | .notText kind => s!"'in <string>' requires string as left operand, not {kind}"

/-- Sets what is given under a name. -/
def set (p : Provider) (name : String) (value : Datum) : Except Refusal Provider :=
  match name with
  | "name" => .ok { p with name := value }
  | "grammar_scopes" => .ok { p with grammarScopes := value }
  | "scope" => .ok { p with scope := value }
  | "lints_on_change" => .ok { p with lintsOnChange := value }
  | name => .error (.unexpected name)

/-- The provider with the values that are given. -/
def register (given : Entries) : Except Refusal Provider :=
  given.foldlM (fun p (name, value) => p.set name value) default

/-- The languages one by one: a text falls into its characters, of a table the keys count. -/
def languages (p : Provider) : Except Refusal (List Datum) :=
  match p.grammarScopes with
  | .list items | .tuple items | .set _ items => .ok items
  | .octets bytes => .ok (bytes.map fun octet => .integer octet.toNat)
  | .text s => .ok (s.toList.map fun c => .text c.toString)
  | .table entries => .ok (entries.map fun (key, _) => .text key)
  | other => .error (.notIterable other.kindName)

/-- Are documents of a language linted? In a text any part of it is a language. -/
def handles (p : Provider) (language : Datum) : Except Refusal Bool :=
  match p.grammarScopes, language with
  | .text s, .text part => .ok (Text.occurs part.toList s.toList)
  | .text _, other => .error (.notText other.kindName)
  | _, language => p.languages.map fun known => known.any (·.equals language)

end Provider

end PlaybookLint
