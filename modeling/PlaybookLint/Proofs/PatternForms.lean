import PlaybookLint.Room
import PlaybookLint.Finding
import PlaybookLint.Proofs.PatternParts

/-!
The readers of failures and of reports are search patterns. Each is told here by the text of its
pattern: compiled and searched for in any text, the pattern finds what the reader finds.
-/

namespace PlaybookLint.Pattern

open Failure

/-- The text of a pattern that finds in any text what a reader finds there. -/
def Tells (source : String) (find : String → Option Groups) : Prop :=
  ∃ p, compile Room.usual.patterns source = .ok p ∧ ∀ text, p.search? text = .ok (find text)

theorem Tells.of_here {source : String} {p : Pattern} {find : String → Option Groups}
    (compiled : compile Room.usual.patterns source = .ok p) (readable : p.Readable)
    (here : List Char → Option Groups) (told : ∀ whole s, p.tellHere whole s = here s)
    (first : ∀ text, firstPlace here text.toList = find text) : Tells source find := by
  refine ⟨p, compiled, fun text => ?_⟩
  rw [search_reads readable, funext (told text.toList), first]

theorem Tells.of_phrase {source w : String} {least : Nat}
    (compiled : compile Room.usual.patterns source
      = .ok ⟨source, 0, least, true, .phrase w.toList .empty⟩)
    (few : (Node.phrase w.toList .empty).fewest = some least) (filled : 0 < least) :
    Tells source fun text => plain (mentions w text.toList) := by
  refine .of_here compiled ⟨⟨0, .phrase .empty _⟩, few, fun _ => filled⟩
    (fun s => plain (w.toList.isPrefixOf s)) (fun whole s => ?_) fun text => ?_
  · rw [tell_plain, phrase_is_some]
  · rw [first_place_plain fun _ => rfl, mentions, occurs_eq_any]

/-! ### The rows of the table -/

def missingFileSource : String := "WARNING: Couldn't open (.*) - No such file or directory"

def unreadableFileSource : String :=
  "the file_name (.*) does not exist, or is not readable|Could not find or access '(.*)'"
    ++ "|error occurred while trying to read the file '(.*)':"

def yamlSyntaxSource : String := "Syntax Error while loading YAML"

def ansibleSyntaxSource : String :=
  "raise Ansible(?:Parser)?Error|Couldn't parse task at|AttributeError"

def vaultSource : String := "vault password.*decrypt"

def stdinSource : String := "\\.dirname"

def skipHintSource : String := "You can skip specific rules"

set_option maxRecDepth 10000

theorem missing_file_compiled :
    compile Room.usual.patterns missingFileSource
      = .ok ⟨missingFileSource, 1, 51, true,
        .between "WARNING: Couldn't open " " - No such file or directory" 1⟩ := by
  cbv

theorem missing_file_told : Tells missingFileSource findMissingFile :=
  .of_here missing_file_compiled
    ⟨⟨_, .between Nat.one_pos (Nat.zero_le _) _ _⟩, by cbv, fun _ => by decide⟩
    _ (fun whole s => tell_between whole _ _ _ Nat.one_pos s) fun text => first_place_map _ _ _

theorem unreadable_file_compiled :
    compile Room.usual.patterns unreadableFileSource
      = .ok ⟨unreadableFileSource, 3, 27, true,
        .both (.optionBetween "the file_name " " does not exist, or is not readable" 1
          (.optionBetween "Could not find or access '" "'" 2
            (.optionBetween "error occurred while trying to read the file '" "':" 3 .nothing)))
          .empty⟩ := by
  cbv

theorem unreadable_file_told : Tells unreadableFileSource findUnreadableFile := by
  refine .of_here unreadable_file_compiled ⟨⟨_, .both (.optionBetween (by decide) (by decide)
    (.optionBetween (by decide) (by decide) (.optionBetween (by decide) (by decide) .nothing)))
    .empty⟩, by cbv, fun _ => by decide⟩ unreadableHere (fun whole s => ?_) fun _ => rfl
  rw [tellHere, readHere, read_both_empty, read_option_between, read_option_between,
    read_option_between, Option.map_or, Option.map_or, Option.map_or,
    tell_between whole _ _ 3 (by decide), tell_between whole _ _ 3 (by decide),
    tell_between whole _ _ 3 (by decide)]
  simp only [unreadableHere]
  cases betweenHere "the file_name " " does not exist, or is not readable" s with
  | some _ => rfl
  | none =>
    cases betweenHere "Could not find or access '" "'" s with
    | some _ => rfl
    | none => cases betweenHere "error occurred while trying to read the file '" "':" s <;> rfl

theorem yaml_syntax_told : Tells yamlSyntaxSource findYamlSyntax :=
  .of_phrase (by cbv) (by cbv) (by decide)

theorem ansible_syntax_compiled :
    compile Room.usual.patterns ansibleSyntaxSource
      = .ok ⟨ansibleSyntaxSource, 0, 14, true,
        .both (.option "raise Ansible".toList
          (.maybe "Parser".toList (.phrase "Error".toList .empty))
          (.option "Couldn't parse task at".toList .empty
            (.option "AttributeError".toList .empty .nothing))) .empty⟩ := by
  cbv

theorem ansible_syntax_told : Tells ansibleSyntaxSource findAnsibleSyntax := by
  refine .of_here ansible_syntax_compiled
    ⟨⟨0, .both (.option (.maybe (.phrase .empty _) _) (.option .empty (.option .empty .nothing _) _) _)
      .empty⟩, by cbv, fun _ => by decide⟩
    (fun s => plain (["raise AnsibleError", "raise AnsibleParserError", "Couldn't parse task at",
      "AttributeError"].any fun phrase => phrase.toList.isPrefixOf s))
    (fun whole s => ?_) fun text => ?_
  · have one : "raise Ansible" ++ "Error" = "raise AnsibleError" := by decide
    have other : "raise Ansible" ++ "Parser" ++ "Error" = "raise AnsibleParserError" := by decide
    rw [tell_plain, read_both_empty, read_option, read_option, read_option, Option.isSome_or,
      Option.isSome_or, Option.isSome_or, maybe_is_some, phrase_is_some, phrase_is_some, one, other,
      Bool.or_assoc]
    rfl
  · rw [first_place_plain fun _ => rfl, ← any_mentions]
    rfl

theorem vault_compiled :
    compile Room.usual.patterns vaultSource
      = .ok ⟨vaultSource, 0, 21, true,
        .phrase "vault password".toList
          (.both (.line (some 100)) (.phrase "decrypt".toList .empty))⟩ := by
  cbv

theorem vault_told : Tells vaultSource findVault := by
  refine .of_here vault_compiled ⟨⟨0, .phrase (.both (.greedy _ _ _ _ _) (.phrase .empty _)) _⟩,
    by cbv, fun _ => by decide⟩ (fun s => plain (betweenHere "vault password" "decrypt" s).isSome)
    (fun whole s => ?_) fun text => ?_
  · rw [tell_plain, read_phrase, betweenHere]
    cases after? "vault password".toList s with
    | none => rfl
    | some s =>
      have read : (Node.both (.line (some 100)) (.phrase "decrypt".toList .empty)).read whole noteAll
          [] s = takeMost .notLineFeed (whereFits ("decrypt".toList.head?.map Char.toNat)
            ((Node.phrase "decrypt".toList .empty).read whole noteAll [])) s 0 none := rfl
      rw [Option.bind_some, Option.bind_some, read, where_fits_phrase,
        take_line_until (closing_told whole "decrypt" []), Option.isSome_map]
  · rw [first_place_plain fun _ => rfl, ← first_place_is_some]
    rfl

theorem stdin_told : Tells stdinSource findStdin := .of_phrase (by cbv) (by cbv) (by decide)

theorem skip_hint_told : Tells skipHintSource findSkipHint :=
  .of_phrase (by cbv) (by cbv) (by decide)

/-- The patterns of the default rows, in order. -/
def defaultSources : List String :=
  [missingFileSource, unreadableFileSource, yamlSyntaxSource, ansibleSyntaxSource, vaultSource,
    stdinSource, skipHintSource]

/-- Every default row finds what its pattern finds. -/
theorem default_rows_told : List.Forall₂ (fun row source =>
    ∃ find, row.find = .ok ∘ find ∧ Tells source find) Table.default defaultSources := by
  refine .cons ⟨_, rfl, missing_file_told⟩ (.cons ⟨_, rfl, unreadable_file_told⟩
    (.cons ⟨_, rfl, yaml_syntax_told⟩ (.cons ⟨_, rfl, ansible_syntax_told⟩
    (.cons ⟨_, rfl, vault_told⟩ (.cons ⟨_, rfl, stdin_told⟩ (.cons ⟨_, rfl, skip_hint_told⟩ .nil))))))

end PlaybookLint.Pattern
