/-!
Reading octets as UTF-8, one octet at a time. A state is either ready for a character or owes a
number of continuation octets, the next within stated bounds; the bounds refuse overlong forms,
surrogates and code points beyond the last. A sequence that breaks off counts as one flaw, however
many octets it had, and the octet that broke it is read afresh.
-/

namespace PlaybookLint.Text.Utf8

/-- A character that has begun: octets still owed, bounds of the next, bits and octets so far. -/
structure Partial where
  owed : Nat
  low : Nat
  high : Nat
  bits : Nat
  seen : List UInt8
deriving Repr, DecidableEq

inductive State where
  | ready
  | owing (begun : Partial)
deriving Repr, DecidableEq

/-- Why octets do not form a character. -/
inductive Flaw where
  | badStart
  | badContinuation
  | brokenOff
deriving Repr, DecidableEq

def Flaw.message : Flaw → String
  | .badStart => "invalid start byte"
  | .badContinuation => "invalid continuation byte"
  | .brokenOff => "unexpected end of data"

/-- What reading yields: a character, or octets that form none. -/
inductive Piece where
  | character (c : Char)
  | flawed (octets : List UInt8) (why : Flaw)
deriving Repr, DecidableEq

/-- The state after the first octet of a character, and what that octet already yields. -/
def start (octet : UInt8) : State × List Piece :=
  let n := octet.toNat
  let begin_ (owed low high bits : Nat) : State × List Piece :=
    (.owing ⟨owed, low, high, bits, [octet]⟩, [])
  if n < 0x80 then (.ready, [.character (Char.ofNat n)])
  else if n < 0xc2 then (.ready, [.flawed [octet] .badStart])
  else if n < 0xe0 then begin_ 1 0x80 0xbf (n - 0xc0)
  else if n == 0xe0 then begin_ 2 0xa0 0xbf 0
  else if n == 0xed then begin_ 2 0x80 0x9f 0xd
  else if n < 0xf0 then begin_ 2 0x80 0xbf (n - 0xe0)
  else if n == 0xf0 then begin_ 3 0x90 0xbf 0
  else if n < 0xf4 then begin_ 3 0x80 0xbf (n - 0xf0)
  else if n == 0xf4 then begin_ 3 0x80 0x8f 4
  else (.ready, [.flawed [octet] .badStart])

/-- One octet further. -/
def step (state : State) (octet : UInt8) : State × List Piece :=
  match state with
  | .ready => start octet
  | .owing begun =>
    let n := octet.toNat
    if begun.low ≤ n && n ≤ begun.high then
      let bits := begun.bits * 64 + n % 64
      if begun.owed ≤ 1 then (.ready, [.character (Char.ofNat bits)])
      else (.owing ⟨begun.owed - 1, 0x80, 0xbf, bits, begun.seen ++ [octet]⟩, [])
    else
      let (next, out) := start octet
      (next, .flawed begun.seen .badContinuation :: out)

/-- What is left over at the end of the octets. -/
def finish : State → List Piece
  | .ready => []
  | .owing begun => [.flawed begun.seen .brokenOff]

/-- The pieces read from `state` on. -/
def piecesFrom (state : State) : List UInt8 → List Piece
  | [] => finish state
  | octet :: rest =>
    let (next, out) := step state octet
    out ++ piecesFrom next rest

/-- The pieces of a sequence of octets. -/
def pieces (octets : List UInt8) : List Piece := piecesFrom .ready octets

/-- The character that stands for octets that form none. -/
def replacement : Char := '\uFFFD'

def Piece.toChar : Piece → Char
  | .character c => c
  | .flawed _ _ => replacement

/-- Reads octets, each flaw as one replacement character. -/
def decodeReplacing (octets : List UInt8) : String :=
  String.ofList ((pieces octets).map Piece.toChar)

/-- The place and the reason of a refusal: octets before it, the flawed octets, the flaw. -/
structure Refusal where
  position : Nat
  octets : List UInt8
  why : Flaw
deriving Repr, DecidableEq

/-- Collects characters until the first flaw; `position` counts the octets read so far. -/
def collect (position : Nat) : List Piece → Except Refusal (List Char)
  | [] => .ok []
  | .character c :: rest => (collect (position + c.utf8Size) rest).map (c :: ·)
  | .flawed octets why :: _ => .error ⟨position, octets, why⟩

/-- Reads octets that must all form characters. -/
def decode (octets : List UInt8) : Except Refusal String :=
  (collect 0 (pieces octets)).map String.ofList

/-- The octets of a text. -/
def encode (s : String) : List UInt8 := s.toUTF8.data.toList

end PlaybookLint.Text.Utf8
