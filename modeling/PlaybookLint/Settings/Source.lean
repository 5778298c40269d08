import PlaybookLint.Settings.Configuration
import PlaybookLint.Settings.Environment
import PlaybookLint.Files.Host
import PlaybookLint.Text.Utf8
import PlaybookLint.Toml

/-!
Where settings come from: the defaults, values held in memory, a TOML file of their own or a section
of a project's file. Reading a source gives the settings that it mentions; a file that is not there
mentions none.
-/

namespace PlaybookLint.Settings

/-- Why settings could not be read or do not make a configuration. -/
inductive Fault where
  | invalid (problems : List Problem)
  | malformed (path : String) (refusal : Toml.Refusal)
  | unreadable (path : String) (errno : Errno)
  | missing (path : String)
  | inaccessible (fault : AccessFault)
  | undecodable (refusal : Text.Utf8.Refusal)
  | number (refusal : Text.TooManyDigits)
  | excess (what : Pattern.Excess)
  /-- Values stand inside values deeper than calls may nest. -/
  | tooDeep
  /-- Nobody knows the directory of the user. -/
  | homeless
deriving Repr, DecidableEq

/-- One octet as two hexadecimal digits. -/
def hexOctet (octet : UInt8) : String := "0x" ++ String.ofList (Text.hexDigits 2 octet.toNat)

/-- What is said of octets that are not text. -/
def undecodableMessage (refusal : Text.Utf8.Refusal) : String :=
  match refusal.octets with
  | [octet] =>
    s!"'utf-8' codec can't decode byte {hexOctet octet} in position {refusal.position}: "
      ++ refusal.why.message
  | octets =>
    let last := refusal.position + octets.length - 1
    s!"'utf-8' codec can't decode bytes in position {refusal.position}-{last}: "
      ++ refusal.why.message

namespace Fault

def message : Fault → String
  | .invalid problems => ProblemReport.text ⟨Configuration.modelName, problems⟩
  | .malformed path refusal => s!"Invalid TOML in {path}: {refusal.message}"
  | .unreadable path errno => s!"Unable to read {path}: {errno.message path}"
  | .missing path => s!"Configuration file {path} does not exist"
  | .inaccessible fault => fault.message
  | .undecodable refusal => undecodableMessage refusal
  | .number refusal => refusal.message
  | .excess what => what.message
  | .tooDeep => Pattern.Excess.nesting.message
  | .homeless => "Could not determine home directory."

/-- Is the fault one of the settings themselves, to be shown to whoever wrote them? -/
def isConfiguration : Fault → Bool
  | .invalid _ | .malformed _ _ | .unreadable _ _ | .missing _ => true
  | .inaccessible _ | .undecodable _ | .number _ | .excess _ | .tooDeep | .homeless => false

def ofRefusal : Configuration.Refusal → Fault
  | .problems found => .invalid found
  | .excess what => .excess what
  | .tooDeep => .tooDeep

end Fault

/-- A source of settings. A file keeps the path it was given by, the name it is shown under and the
environment that its texts refer to. -/
inductive Source where
  | defaults
  | memory (entries : Entries) (name : String)
  | file (path : Path) (name : String) (lookup : String → Option String)
  | section_ (path : Path) (name : String) (lookup : String → Option String)

namespace Source

def name : Source → String
  | .defaults => "defaults"
  | .memory _ name => name
  | .file _ name _ => name
  | .section_ _ name _ => name

/-- How a source is spoken of. -/
def describe : Source → String
  | .defaults => "Built-in defaults"
  | .memory _ name => s!"In-memory settings ({name})"
  | .file _ name _ => s!"TOML configuration at {name}"
  | .section_ _ name _ => s!"pyproject.toml ({name})"

/-- The document in a file, if the file is there. -/
def document? (host : Host) (path : Path) : Except Fault (Option Entries) := do
  if ← (host.probe path).mapError .inaccessible then
    match Files.readFile host.tree host.cwd path.text with
    | .error errno => .error (.unreadable path.text errno)
    | .ok octets =>
      match Text.Utf8.decode octets with
      | .error refusal => .error (.undecodable refusal)
      | .ok text =>
        match Toml.read host.room.documents text with
        | .ok entries => .ok (some entries)
        | .error (.number refusal) => .error (.number refusal)
        | .error .tooDeep => .error .tooDeep
        | .error refusal => .error (.malformed path.text refusal)
  else .ok none

/-- The entries of a table under a key; anything else has none. -/
def tableUnder (entries : Entries) (key : String) : Entries :=
  match entries.value? key with
  | some (.table inner) => inner
  | _ => []

/-- The section of a project's file that holds the settings. -/
def projectSection (entries : Entries) : Entries :=
  tableUnder (tableUnder entries "tool") "ansible-lint-adapter"

/-- The settings that a source mentions. -/
def load (host : Host) : Source → Except Fault Entries
  | .defaults => .ok Configuration.default.toEntries
  | .memory entries _ => .ok (entries.filter (!·.2.isNull))
  | .file path _ lookup => do
    match ← document? host path with
    | some entries => return Environment.expandEntries lookup entries
    | none => return []
  | .section_ path _ lookup => do
    match ← document? host path with
    | some entries => return Environment.expandEntries lookup (projectSection entries)
    | none => return []

end Source

end PlaybookLint.Settings
