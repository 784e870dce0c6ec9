/-
# Punycode

A label with characters beyond ASCII can be written in ASCII: first its ASCII
characters and a hyphen, then a sequence of numbers that say which characters
to insert, and where.  A number has its lowest digit first; how many digits it
has depends on thresholds that follow the numbers before.

* `Punycode.decode?`: the label that a text writes.
-/
import LuServer.Text.Cut
import LuServer.Text.Digit

namespace LuServer.Punycode

/-- The state of decoding: the characters so far, and the number at hand. -/
structure Decoding where
  text : Text
  /-- The code point of the last insertion. -/
  code : Nat := 0x80
  bias : Nat := 72
  /-- The sum of the numbers, counted through the places of the text. -/
  index : Nat := 0
  /-- The index before the number at hand. -/
  start : Nat := 0
  /-- The weight of the next digit. -/
  weight : Nat := 1
  /-- The place of the next digit, in steps of 36. -/
  place : Nat := 36
deriving DecidableEq, Repr

/-- The value of a digit: letters from 0 on, then the decimal digits. -/
def digit? (c : Char) : Option Nat :=
  if c.isAlpha then some (c.toLower.toNat - 'a'.toNat)
  else if c.isDigit then some (c.toNat - '0'.toNat + 26)
  else none

/-- Numbers have 32 bits. -/
def limit : Nat :=
  4294967296

/-- Digits below the threshold end a number. -/
def threshold (bias place : Nat) : Nat :=
  if place ≤ bias then 1 else min 26 (place - bias)

/-- The part of the bias that depends on the size of a number. -/
def shrink (delta steps : Nat) : Nat :=
  if 455 < delta then shrink (delta / 35) (steps + 36) else steps + 36 * delta / (delta + 38)
termination_by delta
decreasing_by exact Nat.div_lt_self (by omega) (by decide)

/-- The bias after a number, when the text has `count` characters. -/
def adapt (delta count : Nat) (first : Bool) : Nat :=
  let half := if first then delta / 700 else delta / 2
  shrink (half + half / count) 0

/-- The state after the last digit of a number: one more character. -/
def insert? (s : Decoding) (index : Nat) : Option Decoding :=
  let count := s.text.length + 1
  let code := s.code + index / count
  let i := index % count
  if h : code.isValidChar then
    some {
      text := s.text.take i ++ Char.ofNatAux code h :: s.text.drop i
      code
      bias := adapt (index - s.start) count (s.start == 0)
      index := i + 1
      start := i + 1 }
  else none

/-- The state after one more digit. -/
def next? (s : Decoding) (c : Char) : Option Decoding := do
  let d ← digit? c
  let t := threshold s.bias s.place
  let index := s.index + d * s.weight
  let weight := s.weight * (36 - t)
  if limit ≤ index then none
  else if d < t then insert? s index
  else if limit ≤ weight then none
  else some { s with index, weight, place := s.place + 36 }

/-- The ASCII characters in front, and the digits.  A hyphen that comes first
divides nothing. -/
def split (t : Text) : Text × Text :=
  match Text.cutAt '-' t.reverse with
  | some (digits, c :: before) => ((c :: before).reverse, digits.reverse)
  | _ => ([], t)

/-- The label that a text writes. -/
def decode? (t : Text) : Option Text := do
  let (before, digits) := split t
  let s ← digits.foldlM next? { text := before }
  if s.place = 36 then some s.text else none

end LuServer.Punycode
