import PlaybookLint.Text.Utf8

/-!
Octets that form no characters. What has begun and does not go on is a flaw, whether the octets end
there or an octet of another kind follows, and either way it becomes one replacement character. A line
feed is of another kind in every state, and nothing else is read as one, so the text in front of it and
the text behind it are read as if they stood alone.
-/

namespace PlaybookLint.Text.Utf8

/-- The octet that is a line feed. -/
def feed : UInt8 := 0x0a

/-- What has begun goes on with continuation octets only, and there are bits of its code already or the
next octet must bring some. -/
structure Partial.Sound (begun : Partial) : Prop where
  low : 0x80 ≤ begun.low
  high : begun.high ≤ 0xbf
  bits : 1 ≤ begun.bits ∨ 2 ≤ begun.owed ∧ 0x80 < begun.low

/-- The states that reading gets into. -/
inductive State.Sound : State → Prop
  | ready : State.Sound .ready
  | owing {begun : Partial} (sound : begun.Sound) : State.Sound (.owing begun)

/-- What the first octet of a character comes to. -/
inductive Begins (octet : UInt8) : State × List Piece → Prop
  | single (ascii : octet.toNat < 0x80) :
      Begins octet (.ready, [.character (Char.ofNat octet.toNat)])
  | flawed (beyond : 0x80 ≤ octet.toNat) : Begins octet (.ready, [.flawed [octet] .badStart])
  | longer {begun : Partial} (beyond : 0x80 ≤ octet.toNat) (sound : begun.Sound) :
      Begins octet (.owing begun, [])

theorem Begins.owes {octet : UInt8} (beyond : 0x80 ≤ octet.toNat) {owed low high bits : Nat}
    (atLeast : 0x80 ≤ low) (atMost : high ≤ 0xbf) (coded : 1 ≤ bits ∨ 2 ≤ owed ∧ 0x80 < low) :
    Begins octet (.owing ⟨owed, low, high, bits, [octet]⟩, []) :=
  .longer beyond ⟨atLeast, atMost, coded⟩

theorem start_begins (octet : UInt8) : Begins octet (start octet) := by
  simp only [start, beq_iff_eq]
  split
  · exact .single ‹_›
  split
  · exact .flawed (by omega)
  split
  · exact .owes (by omega) (by decide) (by decide) (.inl (by omega))
  split
  · exact .owes (by omega) (by decide) (by decide) (.inr (by decide))
  split
  · exact .owes (by omega) (by decide) (by decide) (.inl (by decide))
  split
  · exact .owes (by omega) (by decide) (by decide) (.inl (by omega))
  split
  · exact .owes (by omega) (by decide) (by decide) (.inr (by decide))
  split
  · exact .owes (by omega) (by decide) (by decide) (.inl (by omega))
  split
  · exact .owes (by omega) (by decide) (by decide) (.inl (by decide))
  · exact .flawed (by omega)

theorem start_feed : start feed = (.ready, [.character '\n']) := by decide

theorem code_of_feed {n : Nat} (same : Char.ofNat n = '\n') : n = 10 := by
  by_cases valid : n.isValidChar
  · rw [Char.ofNat, dif_pos valid] at same
    exact congrArg Char.toNat same
  · rw [Char.ofNat, dif_neg valid] at same
    cases same

/-! ### One octet -/

/-- What one octet comes to in some state. What has begun either goes on, or is a flaw and the octet
begins a character. -/
inductive Steps (octet : UInt8) : State → State × List Piece → Prop
  | begins {out : State × List Piece} (begins : Begins octet out) : Steps octet .ready out
  | ends {begun : Partial} (sound : begun.Sound) {code : Nat} (large : 64 ≤ code) (other : octet ≠ feed) :
      Steps octet (.owing begun) (.ready, [.character (Char.ofNat code)])
  | goesOn {begun next : Partial} (sound : begun.Sound) (sound' : next.Sound) (other : octet ≠ feed) :
      Steps octet (.owing begun) (.owing next, [])
  | broken {begun : Partial} (sound : begun.Sound) {out : State × List Piece} (begins : Begins octet out) :
      Steps octet (.owing begun) (out.1, .flawed begun.seen .badContinuation :: out.2)

theorem step_steps {state : State} (sound : state.Sound) (octet : UInt8) :
    Steps octet state (step state octet) := by
  cases sound with
  | ready => exact .begins (start_begins octet)
  | @owing begun sound =>
      obtain ⟨low, high, bits⟩ := sound
      simp only [step, Bool.and_eq_true, decide_eq_true_eq]
      split
      · rename_i inside
        have other : octet ≠ feed := by
          rintro rfl
          have small : feed.toNat = 10 := by decide
          omega
        split
        · exact .ends ⟨low, high, bits⟩ (by omega) other
        · exact .goesOn ⟨low, high, bits⟩
            ⟨Nat.le_refl _, Nat.le_refl _, .inl (by dsimp only; omega)⟩ other
      · exact .broken ⟨low, high, bits⟩ (start_begins octet)

theorem Begins.sound {octet : UInt8} {out : State × List Piece} (begins : Begins octet out) :
    out.1.Sound := by
  cases begins with
  | single _ => exact .ready
  | flawed _ => exact .ready
  | longer _ sound => exact .owing sound

/-- Reading keeps to the states that it gets into. -/
theorem step_sound {state : State} (sound : state.Sound) (octet : UInt8) :
    (step state octet).1.Sound := by
  have steps := step_steps sound octet
  generalize step state octet = out at steps
  cases steps with
  | begins begins => exact begins.sound
  | ends _ _ _ => exact .ready
  | goesOn _ sound' _ => exact .owing sound'
  | broken _ begins => exact begins.sound

/-- The characters of pieces. -/
def chars (found : List Piece) : List Char := found.map Piece.toChar

theorem replacement_not_feed : '\n' ∉ [replacement] := by decide

theorem Begins.feed_not_read {octet : UInt8} {out : State × List Piece} (begins : Begins octet out)
    (other : octet ≠ feed) : '\n' ∉ chars out.2 := by
  cases begins with
  | single ascii =>
      rw [chars, List.map_singleton, List.mem_singleton]
      intro same
      exact other (UInt8.toNat_inj.mp (code_of_feed same.symm))
  | flawed _ => exact replacement_not_feed
  | longer _ _ => exact List.not_mem_nil

/-- No other octet yields a line feed, alone or with the octets before it. -/
theorem step_feed_not_read {state : State} (sound : state.Sound) {octet : UInt8}
    (other : octet ≠ feed) : '\n' ∉ chars (step state octet).2 := by
  have steps := step_steps sound octet
  generalize step state octet = out at steps
  cases steps with
  | begins begins => exact begins.feed_not_read other
  | ends _ large _ =>
      rw [chars, List.map_singleton, List.mem_singleton]
      intro same
      have code := code_of_feed same.symm
      omega
  | goesOn _ _ _ => exact List.not_mem_nil
  | broken _ begins =>
      have behind := begins.feed_not_read other
      rw [chars] at behind ⊢
      rw [List.map_cons, List.mem_cons, not_or]
      exact ⟨nofun, behind⟩

/-- A line feed ends what has begun as the end of the octets does, and is read as itself. -/
theorem step_feed {state : State} (sound : state.Sound) :
    (step state feed).1 = .ready ∧ chars (step state feed).2 = chars (finish state) ++ ['\n'] := by
  have steps := step_steps sound feed
  cases sound with
  | ready =>
      rw [step, start_feed]
      exact ⟨rfl, rfl⟩
  | @owing begun _ =>
      generalize step (.owing begun) feed = out at steps
      cases steps with
      | ends _ _ other => exact absurd rfl other
      | goesOn _ _ other => exact absurd rfl other
      | broken _ begins =>
          cases begins with
          | single _ => exact ⟨rfl, rfl⟩
          | flawed beyond => exact absurd beyond (by decide)
          | longer beyond _ => exact absurd beyond (by decide)

/-! ### Runs of octets -/

theorem chars_append (found others : List Piece) : chars (found ++ others) = chars found ++ chars others :=
  List.map_append

theorem chars_from_cons (state : State) (octet : UInt8) (rest : List UInt8) :
    chars (piecesFrom state (octet :: rest)) =
      chars (step state octet).2 ++ chars (piecesFrom (step state octet).1 rest) := by
  rw [piecesFrom, chars_append]

/-- A line feed cuts the text in two, in whatever state reading begins. -/
theorem chars_from_feed {state : State} (sound : state.Sound) (a b : List UInt8) :
    chars (piecesFrom state (a ++ feed :: b)) =
      chars (piecesFrom state a) ++ '\n' :: chars (pieces b) := by
  induction a generalizing state with
  | nil =>
      obtain ⟨after, read⟩ := step_feed sound
      rw [List.nil_append, chars_from_cons, after, read, piecesFrom, pieces, List.append_assoc,
        List.singleton_append]
  | cons octet a ih =>
      rw [List.cons_append, chars_from_cons, chars_from_cons, ih (step_sound sound octet),
        List.append_assoc]

theorem finish_feed_not_read (state : State) : '\n' ∉ chars (finish state) := by
  cases state with
  | ready => exact List.not_mem_nil
  | owing begun => exact replacement_not_feed

/-- Without the octet there is no line feed in the text. -/
theorem feed_not_read_from {state : State} (sound : state.Sound) {octets : List UInt8}
    (absent : feed ∉ octets) : '\n' ∉ chars (piecesFrom state octets) := by
  induction octets generalizing state with
  | nil => exact finish_feed_not_read state
  | cons octet rest ih =>
      rw [List.mem_cons, not_or] at absent
      rw [chars_from_cons, List.mem_append, not_or]
      exact ⟨step_feed_not_read sound fun same => absent.1 same.symm,
        ih (step_sound sound octet) absent.2⟩

theorem to_list_decode_replacing (octets : List UInt8) :
    (decodeReplacing octets).toList = chars (pieces octets) :=
  String.toList_ofList

theorem decode_replacing_feed (a b : List UInt8) :
    decodeReplacing (a ++ feed :: b) = decodeReplacing a ++ "\n" ++ decodeReplacing b := by
  apply String.toList_inj.mp
  simp only [String.toList_append, to_list_decode_replacing, pieces]
  rw [chars_from_feed .ready, pieces]
  simp

theorem feed_not_decoded {octets : List UInt8} (absent : feed ∉ octets) :
    '\n' ∉ (decodeReplacing octets).toList := by
  rw [to_list_decode_replacing]
  exact feed_not_read_from .ready absent

end PlaybookLint.Text.Utf8
