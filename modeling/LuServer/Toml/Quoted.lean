/-
# TOML strings

Strings between double quotes have escapes, those between single quotes have
none; three quotes on each side allow a string to go over several lines.

* `Toml.string?`: the string at the start of a text, of any of the four forms.
* `Toml.oneLine?`: such a string of the two forms for one line.
-/
import LuServer.Text.Cut
import LuServer.Text.Digit

namespace LuServer.Toml

/-- Characters that can stand in a comment or a string: the tab and whatever is
no control character. -/
def isPlain (c : Char) : Bool :=
  c == '\t' || (0x20 ≤ c.toNat && c.toNat ≠ 0x7F)

/-- Blanks within a line. -/
def isSpace (c : Char) : Bool :=
  c == ' ' || c == '\t'

/-- The rest after a line break. -/
def newline? (t : Text) : Option Text :=
  match t with
  | '\n' :: r => some r
  | '\r' :: '\n' :: r => some r
  | _ => none

/-- The rest after blanks and line breaks. -/
def skipLines : Text → Text
  | '\r' :: '\n' :: r => skipLines r
  | c :: r => if isSpace c || c == '\n' then skipLines r else c :: r
  | [] => []

/-- The character whose number `n` hexadecimal digits write, and the rest. -/
def codePoint? (n : Nat) (t : Text) : Option (Char × Text) :=
  let digits := t.take n
  let value := Text.ofDigits 16 digits
  if digits.length = n ∧ digits.all Text.isHex = true then
    if h : value.isValidChar then some (Char.ofNatAux value h, t.drop n) else none
  else none

/-- The character that an escape stands for, from what follows its backslash,
and the rest. -/
def escape? (t : Text) : Option (Char × Text) :=
  match t with
  | 'b' :: r => some ('\x08', r)
  | 't' :: r => some ('\t', r)
  | 'n' :: r => some ('\n', r)
  | 'f' :: r => some ('\x0C', r)
  | 'r' :: r => some ('\r', r)
  | '"' :: r => some ('"', r)
  | '\\' :: r => some ('\\', r)
  | 'u' :: r => codePoint? 4 r
  | 'U' :: r => codePoint? 8 r
  | _ => none

/-- The rest of a string between double quotes, after the first of them. -/
def basic? : Nat → Text → Option (Text × Text)
  | 0, _ => none
  | _ + 1, [] => none
  | fuel + 1, c :: r =>
    if c = '"' then some ([], r)
    else if c = '\\' then do
      let (x, rest) ← escape? r
      let (s, rest) ← basic? fuel rest
      return (x :: s, rest)
    else if isPlain c then (basic? fuel r).map fun p => (c :: p.1, p.2)
    else none

/-- The rest of a string between single quotes, after the first of them. -/
def literal? (t : Text) : Option (Text × Text) :=
  match t.cutAt '\'' with
  | none => none
  | some (s, rest) => if s.all isPlain then some (s, rest) else none

/-- The rest of a string over several lines, after its three quotes `q`.  Up to
two more quotes can stand before the three that end it. -/
def lines? (q : Char) : Nat → Text → Option (Text × Text)
  | 0, _ => none
  | _ + 1, [] => none
  | fuel + 1, c :: r =>
    if c = q then
      let run := (c :: r).takeWhile (· == q)
      if run.length < 3 then (lines? q fuel r).map fun p => (c :: p.1, p.2)
      else
        let extra := min (run.length - 3) 2
        some (List.replicate extra q, (c :: r).drop (extra + 3))
    else match newline? (c :: r) with
      | some rest => (lines? q fuel rest).map fun p => ('\n' :: p.1, p.2)
      | none =>
        if c = '\\' ∧ q = '"' then
          match newline? (r.dropWhile isSpace) with
          | some rest => lines? q fuel (skipLines rest)
          | none => do
            let (x, rest) ← escape? r
            let (s, rest) ← lines? q fuel rest
            return (x :: s, rest)
        else if isPlain c then (lines? q fuel r).map fun p => (c :: p.1, p.2)
        else none

/-- A string of the two forms for one line at the start of a text, and the
rest. -/
def oneLine? (t : Text) : Option (Text × Text) :=
  match t with
  | '"' :: r => basic? (r.length + 1) r
  | '\'' :: r => literal? r
  | _ => none

/-- A string at the start of a text, and the rest.  A line break right after
three quotes does not count. -/
def string? (t : Text) : Option (Text × Text) :=
  match t with
  | '"' :: '"' :: '"' :: r => lines? '"' (r.length + 1) ((newline? r).getD r)
  | '\'' :: '\'' :: '\'' :: r => lines? '\'' (r.length + 1) ((newline? r).getD r)
  | _ => oneLine? t

end LuServer.Toml
