/-!
What a program does over time: what it writes, and when it comes to an end. Times are thousandths of
a second since the program was asked for.
-/

namespace PlaybookLint

/-- Where a program writes to. -/
inductive Channel where
  | out
  | err
deriving Repr, DecidableEq

/-- Octets that are written at a time. -/
structure Writing where
  time : Nat
  channel : Channel
  octets : List UInt8
deriving Repr, DecidableEq

/-- The end of a program and its return code; a negative code is the number of a signal. -/
structure Finish where
  time : Nat
  code : Int
deriving Repr, DecidableEq

/-- All that a program does. It may go on for ever, and so may processes that it leaves behind and
that can still write. -/
structure Performance where
  writings : List Writing
  finish : Option Finish
  /-- When nobody can write any more. -/
  silence : Option Nat
deriving Repr, DecidableEq

namespace Performance

/-- How long it takes until a program has started. -/
def startTime : Nat := 1

/-- What is written to a channel by a time, if there is a last one. -/
def written (p : Performance) (channel : Channel) (before : Nat → Bool) : List UInt8 :=
  (p.writings.filter fun w => w.channel == channel && before w.time).flatMap (·.octets)

/-- All that is written to a channel. -/
def all (p : Performance) (channel : Channel) : List UInt8 := p.written channel fun _ => true

end Performance

end PlaybookLint
