import Mathlib.Data.List.Forall2
import PlaybookLint.Settings.Layer

/-!
Entries of tables, and the keys under which settings stand. Putting one table into another is told by
what is found under a key afterwards. A key stands for a setting exactly if it is one of the setting's
spellings, so that no key is missed and none is taken for another.
-/

namespace PlaybookLint

namespace Entries

/-! ### What is found under a key -/

theorem value_cons (k key : String) (v : Datum) (rest : Entries) :
    value? ((k, v) :: rest) key = (value? rest key).or (if k = key then some v else none) := by
  rw [value?]
  cases value? rest key with
  | some later => rfl
  | none => simp only [Option.none_or, beq_iff_eq]

theorem value_append (earlier later : Entries) (key : String) :
    value? (earlier ++ later) key = (value? later key).or (value? earlier key) := by
  induction earlier with
  | nil => exact (Option.or_none).symm
  | cons entry rest ih =>
      obtain ⟨k, v⟩ := entry
      rw [List.cons_append, value_cons, ih, value_cons, Option.or_assoc]

theorem value_eq_none_iff (entries : Entries) (key : String) :
    value? entries key = none ↔ ∀ entry ∈ entries, entry.1 ≠ key := by
  induction entries with
  | nil => exact ⟨fun _ entry member => absurd member List.not_mem_nil, fun _ => rfl⟩
  | cons entry rest ih =>
      obtain ⟨k, v⟩ := entry
      rw [value_cons, Option.or_eq_none_iff, ih, List.forall_mem_cons]
      constructor
      · rintro ⟨others, absent⟩
        refine ⟨?_, others⟩
        intro same
        rw [if_pos same] at absent
        cases absent
      · rintro ⟨differ, others⟩
        exact ⟨others, if_neg differ⟩

/-- Of several entries under one key the last is found. -/
theorem value_eq_some_iff (entries : Entries) (key : String) (d : Datum) :
    value? entries key = some d ↔
      ∃ before after, entries = before ++ (key, d) :: after ∧ ∀ entry ∈ after, entry.1 ≠ key := by
  constructor
  · intro found
    induction entries with
    | nil => cases found
    | cons entry rest ih =>
        obtain ⟨k, v⟩ := entry
        rw [value_cons] at found
        cases later : value? rest key with
        | some d' =>
            rw [later] at found
            have same : d' = d := Option.some.inj found
            obtain ⟨before, after, split, others⟩ := ih (same ▸ later)
            exact ⟨(k, v) :: before, after, by rw [split, List.cons_append], others⟩
        | none =>
            rw [later, Option.none_or] at found
            split at found
            · rename_i same
              cases found
              exact ⟨[], rest, by rw [same, List.nil_append],
                (value_eq_none_iff rest key).mp later⟩
            · cases found
  · rintro ⟨before, after, split, others⟩
    have absent := (value_eq_none_iff after key).mpr others
    rw [split, value_append, value_cons, absent, if_pos rfl]
    rfl

/-! ### Putting entries into a table -/

theorem value_replaced (entries : Entries) (k key : String) (v : Datum) :
    value? (entries.map fun (k', v') => if k' == k then (k', v) else (k', v')) key =
      if k = key then (value? entries key).map fun _ => v else value? entries key := by
  induction entries with
  | nil =>
      split
      · rfl
      · rfl
  | cons entry rest ih =>
      obtain ⟨k', v'⟩ := entry
      by_cases named : k' = k
      · simp only [List.map_cons, named, beq_self_eq_true, if_true, value_cons, ih]
        by_cases same : k = key
        · simp only [same, if_true]
          cases value? rest key with
          | none => rfl
          | some later => rfl
        · simp only [same, if_false]
      · have kept : (k' == k) = false := beq_eq_false_iff_ne.mpr named
        simp only [List.map_cons, kept, Bool.false_eq_true, if_false, value_cons]
        rw [ih]
        by_cases same : k = key
        · have other : k' ≠ key := same ▸ named
          simp only [same, if_true, other, if_false, Option.or_none]
        · simp only [same, if_false]

theorem value_put (entries : Entries) (k key : String) (v : Datum) :
    value? (entries.put k v) key = (if k = key then some v else none).or (value? entries key) := by
  rw [put]
  cases present : entries.has k with
  | false =>
      rw [if_neg Bool.false_ne_true, value_append, value_cons]
      rfl
  | true =>
      rw [if_pos rfl, value_replaced]
      by_cases same : k = key
      · have found : value? entries key ≠ none := by
          rw [ne_eq, value_eq_none_iff]
          intro others
          rw [has, List.any_eq_true] at present
          obtain ⟨entry, member, named⟩ := present
          exact others entry member ((beq_iff_eq.mp named).trans same)
        obtain ⟨old, held⟩ := Option.ne_none_iff_exists'.mp found
        simp only [same, if_true, held, Option.map_some, Option.some_or]
      · simp only [same, if_false, Option.none_or]

/-- The entries that are put in later count first. -/
theorem value_put_all (entries later : Entries) (key : String) :
    value? (entries.putAll later) key = (value? later key).or (value? entries key) := by
  induction later generalizing entries with
  | nil => rfl
  | cons entry rest ih =>
      obtain ⟨k, v⟩ := entry
      have next : entries.putAll ((k, v) :: rest) = (entries.put k v).putAll rest := rfl
      rw [next, ih, value_put, value_cons, Option.or_assoc]

end Entries

namespace Setting

/-! ### Spellings -/

/-- How a character of a name may be written: a hyphen does for an underscore. -/
def WrittenAs (meant written : Char) : Prop := written = meant ∨ meant = '_' ∧ written = '-'

/-- The spellings of a setting: the name that editors use, and its own name with hyphens in place of
any of its underscores. -/
def Spells (s : Setting) (key : String) : Prop :=
  key = s.hostName ∨ List.Forall₂ WrittenAs s.name.toList key.toList

theorem mem_all (s : Setting) : s ∈ all := by
  cases s <;> decide

theorem name_injective {s t : Setting} (same : s.name = t.name) : s = t := by
  have table : ∀ s ∈ all, ∀ t ∈ all, s.name = t.name → s = t := by decide
  exact table s (mem_all s) t (mem_all t) same

theorem host_name_injective {s t : Setting} (same : s.hostName = t.hostName) : s = t := by
  have table : ∀ s ∈ all, ∀ t ∈ all, s.hostName = t.hostName → s = t := by decide
  exact table s (mem_all s) t (mem_all t) same

/-- A name that editors use is the own name of no other setting. -/
theorem eq_of_name_eq_host_name {s t : Setting} (same : s.name = t.hostName) : s = t := by
  have table : ∀ s ∈ all, ∀ t ∈ all, s.name = t.hostName → s = t := by decide
  exact table s (mem_all s) t (mem_all t) same

theorem hyphen_not_in_name (s : Setting) : '-' ∉ s.name.toList := by
  cases s <;> decide

theorem hyphen_not_in_host_name (s : Setting) : '-' ∉ s.hostName.toList := by
  cases s <;> decide

theorem underscore_not_in_host_name (s : Setting) : '_' ∉ s.hostName.toList := by
  cases s <;> decide

theorem host_name_of_some {key : String} {s : Setting} (found : ofHostName? key = some s) :
    s.hostName = key := by
  rw [ofHostName?] at found
  have named := List.find?_some found
  exact beq_iff_eq.mp named

theorem of_host_name_eq_some_iff (key : String) (s : Setting) :
    ofHostName? key = some s ↔ key = s.hostName := by
  constructor
  · intro found
    exact (host_name_of_some found).symm
  · intro same
    cases found : ofHostName? key with
    | none =>
        rw [ofHostName?, List.find?_eq_none] at found
        exact absurd (beq_iff_eq.mpr same.symm) (found s (mem_all s))
    | some t =>
        rw [host_name_injective ((host_name_of_some found).trans same)]

theorem map_underscores_eq_iff {meant : List Char} (plain : '-' ∉ meant) (written : List Char) :
    written.map (fun c => if c == '-' then '_' else c) = meant ↔
      List.Forall₂ WrittenAs meant written := by
  induction written generalizing meant with
  | nil =>
      cases meant with
      | nil => exact ⟨fun _ => .nil, fun _ => rfl⟩
      | cons m meant => exact ⟨(nomatch ·), (nomatch ·)⟩
  | cons c written ih =>
      cases meant with
      | nil => exact ⟨(nomatch ·), (nomatch ·)⟩
      | cons m meant =>
          have plainHead : m ≠ '-' := fun same => plain (same ▸ List.mem_cons_self)
          have plainTail : '-' ∉ meant := fun member => plain (List.mem_cons_of_mem m member)
          have head : (if c == '-' then '_' else c) = m ↔ WrittenAs m c := by
            by_cases hyphen : c = '-'
            · simp only [hyphen, beq_self_eq_true, if_true, WrittenAs, and_true, plainHead.symm,
                false_or]
              exact eq_comm
            · simp only [beq_iff_eq, hyphen, if_false, WrittenAs, and_false, or_false]
          rw [List.map_cons, List.cons_eq_cons, head, ih plainTail, List.forall₂_cons]

theorem underscored_eq_iff {meant : String} (plain : '-' ∉ meant.toList) (key : String) :
    underscored key = meant ↔ List.Forall₂ WrittenAs meant.toList key.toList := by
  rw [← map_underscores_eq_iff plain, underscored, ← String.toList_inj, String.toList_ofList]

/-- Underscores make no name that editors use. -/
theorem eq_of_underscored_eq_host_name {key : String} {s : Setting}
    (same : underscored key = s.hostName) : key = s.hostName := by
  have written := (underscored_eq_iff (hyphen_not_in_host_name s) key).mp same
  have literal : ∀ m ∈ s.hostName.toList, ∀ c, WrittenAs m c → m = c := by
    intro m member c as
    rcases as with same | ⟨underscore, _⟩
    · exact same.symm
    · exact absurd (underscore ▸ member) (underscore_not_in_host_name s)
  have exact : List.Forall₂ Eq s.hostName.toList key.toList := by
    generalize s.hostName.toList = meant at written literal
    generalize key.toList = chars at written
    induction written with
    | nil => exact .nil
    | cons as _ ih =>
        exact .cons (literal _ List.mem_cons_self _ as)
          (ih fun m member => literal m (List.mem_cons_of_mem _ member))
  exact (String.toList_inj.mp (List.forall₂_eq_eq_eq ▸ exact)).symm

theorem underscored_host_name (s : Setting) : underscored s.hostName = s.hostName := by
  cases s <;> rfl

/-- A key stands for a setting exactly if it is one of its spellings. -/
theorem canonical_key_eq_name_iff (s : Setting) (key : String) :
    canonicalKey key = s.name ↔ s.Spells key := by
  rw [canonicalKey, Spells, ← underscored_eq_iff (hyphen_not_in_name s)]
  cases found : ofHostName? key with
  | some t =>
      have host := (of_host_name_eq_some_iff key t).mp found
      constructor
      · intro same
        rw [name_injective same] at host
        exact .inl host
      · rintro (same | same)
        · rw [host_name_injective (host.symm.trans same)]
        · rw [host, underscored_host_name] at same
          rw [eq_of_name_eq_host_name same.symm]
  | none =>
      constructor
      · exact .inr
      · rintro (same | same)
        · rw [(of_host_name_eq_some_iff key s).mpr same] at found
          cases found
        · exact same

/-- The only key that stands for a name that editors use is a setting's own name. -/
theorem eq_of_canonical_key_eq_host_name {s : Setting} {key : String}
    (same : canonicalKey key = s.hostName) : s.hostName = s.name := by
  rw [canonicalKey] at same
  cases found : ofHostName? key with
  | some t =>
      rw [found] at same
      rw [← same, eq_of_name_eq_host_name same]
  | none =>
      rw [found] at same
      have host := eq_of_underscored_eq_host_name same
      rw [(of_host_name_eq_some_iff key s).mpr host] at found
      cases found

/-- A setting may be written with underscores, with hyphens, or as editors write it. -/
theorem spells_forms (s : Setting) :
    s.Spells s.name ∧ s.Spells (s.name.map fun c => if c == '_' then '-' else c) ∧
      s.Spells s.hostName := by
  simp only [← canonical_key_eq_name_iff]
  cases s <;> decide +kernel

/-- No key is a spelling of two settings. -/
theorem spells_unique {s t : Setting} {key : String} (first : s.Spells key) (second : t.Spells key) :
    s = t :=
  name_injective (((canonical_key_eq_name_iff s key).mpr first).symm.trans
    ((canonical_key_eq_name_iff t key).mpr second))

end Setting

end PlaybookLint
