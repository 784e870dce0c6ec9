/-
# TOML scalars

Numbers, truth values, dates and times: the whole of a word decides what it is.

* `Toml.integer?`, `Toml.isFloat`, `Toml.isDate`, `Toml.isTime`: the forms of words.
* `Toml.scalar?`: the scalar at the start of a text.
-/
import LuServer.Text.Cut
import LuServer.Text.Digit
import LuServer.Toml.Node

namespace LuServer.Toml

/-- The digits of a number with underscores between some of them. -/
def digits? (isDigit : Char → Bool) (t : Text) : Option Text :=
  let groups := t.splitOn '_'
  if groups.all fun g => !g.isEmpty && g.all isDigit then some groups.flatten else none

/-- A word without its sign, and whether the sign was a minus. -/
def sign (t : Text) : Bool × Text :=
  match t with
  | '+' :: r => (false, r)
  | '-' :: r => (true, r)
  | _ => (false, t)

/-- The digits of a whole number, which has no zero in front of other digits. -/
def wholeDigits? (t : Text) : Option Text :=
  match digits? Char.isDigit t with
  | some ('0' :: _ :: _) => none
  | ds => ds

/-- The number in another base that a word without a sign writes. -/
def based? (base : Nat) (t : Text) : Option Nat :=
  (digits? (fun c => c.isAlphanum && Text.digitValue c < base) t).map (Text.ofDigits base)

/-- The integer that a word writes.  It has to fit into 64 bits with a sign. -/
def integer? (t : Text) : Option Int :=
  let value : Option Int := match t with
    | '0' :: 'x' :: r => (based? 16 r).map Int.ofNat
    | '0' :: 'o' :: r => (based? 8 r).map Int.ofNat
    | '0' :: 'b' :: r => (based? 2 r).map Int.ofNat
    | _ =>
      let (negative, r) := sign t
      (wholeDigits? r).map fun ds =>
        if negative then -(Text.ofDigits 10 ds : Int) else (Text.ofDigits 10 ds : Int)
  value.filter fun n => -9223372036854775808 ≤ n ∧ n < 9223372036854775808

/-- Whether `m · 10 ^ (up - down)` rounds to infinity in double precision. -/
def isInfinite (m up down : Nat) : Bool :=
  let bound := Nat.pow 2 1024 - Nat.pow 2 970
  if m = 0 then false
  else if down ≤ up then 310 < up - down || bound ≤ m * Nat.pow 10 (up - down)
  else (down - up < (Nat.toDigits 10 m).length) && bound * Nat.pow 10 (down - up) ≤ m

/-- Whether a word is a float: a whole number with a fraction, an exponent or
both.  A positive one has to be finite in double precision. -/
def isFloat (t : Text) : Bool :=
  let (negative, r) := sign t
  if r = "inf".toList ∨ r = "nan".toList then true
  else
    let mantissa := r.takeWhile fun c => c ≠ 'e' ∧ c ≠ 'E'
    let exponent := (r.drop mantissa.length).drop 1
    let hasExponent := mantissa.length < r.length
    let whole := mantissa.takeWhile (· ≠ '.')
    let fraction := (mantissa.drop whole.length).drop 1
    let hasFraction := whole.length < mantissa.length
    let part (given : Bool) (ds : Text) : Option Text :=
      if given then digits? Char.isDigit ds else some []
    let (down, e) := sign exponent
    match wholeDigits? whole, part hasFraction fraction, part hasExponent e with
    | some w, some f, some x =>
      let shift := Text.ofDigits 10 x
      (hasFraction || hasExponent)
        && (negative || !isInfinite (Text.ofDigits 10 (w ++ f)) (if down then 0 else shift)
          (f.length + if down then shift else 0))
    | _, _, _ => false

/-- The number that exactly `n` decimal digits write. -/
def fixed? (n : Nat) (t : Text) : Option Nat :=
  if t.length = n ∧ t.all Char.isDigit = true then some (Text.ofDigits 10 t) else none

/-- The days of a month. -/
def daysIn (year month : Nat) : Nat :=
  if month = 2 then
    if year % 4 = 0 ∧ (year % 100 ≠ 0 ∨ year % 400 = 0) then 29 else 28
  else if month = 4 ∨ month = 6 ∨ month = 9 ∨ month = 11 then 30
  else 31

/-- Whether a word is a date. -/
def isDate (t : Text) : Bool :=
  match t.splitOn '-' with
  | [y, m, d] =>
    match fixed? 4 y, fixed? 2 m, fixed? 2 d with
    | some year, some month, some day =>
      1 ≤ month && month ≤ 12 && 1 ≤ day && day ≤ daysIn year month
    | _, _, _ => false
  | _ => false

/-- Whether a word is a number of two digits that is not above `most`. -/
def isUpTo (most : Nat) (t : Text) : Bool :=
  (fixed? 2 t).any (· ≤ most)

/-- Whether a word is a time of day, perhaps with a fraction of a second. -/
def isTime (t : Text) : Bool :=
  match t.splitOn ':' with
  | [h, m, s] =>
    let second := s.take 2
    let fraction := s.drop 2
    isUpTo 23 h && isUpTo 59 m && isUpTo 60 second
      && (fraction.isEmpty
        || fraction.head? == some '.' && 1 < fraction.length
          && (fraction.drop 1).all Char.isDigit)
  | _ => false

/-- Whether a word is a distance to universal time. -/
def isOffset (t : Text) : Bool :=
  match t.splitOn ':' with
  | [h, m] => isUpTo 23 h && isUpTo 59 m
  | _ => false

/-- Whether a word is a time of day, perhaps with its distance to universal
time. -/
def isZonedTime (t : Text) : Bool :=
  let time := t.takeWhile fun c => c.isDigit || c == ':' || c == '.'
  isTime time && match t.drop time.length with
    | [] => true
    | ['Z'] | ['z'] => true
    | '+' :: r | '-' :: r => isOffset r
    | _ => false

/-- Whether a word is a date, a time, or both with a `T` between them. -/
def isDatetime (t : Text) : Bool :=
  isDate t || isTime t
    || isDate (t.take 10) && ((t.drop 10).head?.any fun c => c == 'T' || c == 't')
      && isZonedTime (t.drop 11)

/-- Characters of the words that scalars are written with. -/
def isScalarChar (c : Char) : Bool :=
  c.isAlphanum || c == '+' || c == '-' || c == '_' || c == '.' || c == ':'

/-- The scalar that a word writes. -/
def ofWord? (w : Text) : Option Node :=
  if w = "true".toList then some (.boolean true)
  else if w = "false".toList then some (.boolean false)
  else match integer? w with
    | some n => some (.integer n)
    | none =>
      if isFloat w then some (.float w)
      else if isDatetime w then some (.datetime w)
      else none

/-- The scalar at the start of a text, and the rest.  One blank can stand
between a date and its time. -/
def scalar? (t : Text) : Option (Node × Text) :=
  let w := t.takeWhile isScalarChar
  let rest := t.drop w.length
  let next := (rest.drop 1).takeWhile isScalarChar
  if isDate w && rest.head? == some ' ' && isZonedTime next then
    some (.datetime (w ++ ' ' :: next), rest.drop (1 + next.length))
  else (ofWord? w).map fun v => (v, rest)

end LuServer.Toml
