/-
# Tables of characters

The characters with a property are listed as texts: code points in hexadecimal,
a range as its two ends with a hyphen between them, blanks between entries.

* `Character.entries`: the entries of a table.
* `Character.ranges`: the ranges that a table lists.
* `Character.inRanges`: whether a character lies in one of some ranges.
-/
import LuServer.Text.Cut
import LuServer.Text.Digit

namespace LuServer.Character

/-- The entries of a table, line by line. -/
def entries (lines : List String) : List Text :=
  lines.flatMap fun l => (l.toList.splitOn ' ').filter (· ≠ [])

/-- The character with a code point that is written in hexadecimal. -/
def codePoint (t : Text) : Char :=
  Char.ofNat (Text.ofDigits 16 t)

/-- The range that an entry writes. -/
def range (entry : Text) : Nat × Nat :=
  match entry.cutAt '-' with
  | some (a, b) => (Text.ofDigits 16 a, Text.ofDigits 16 b)
  | none => (Text.ofDigits 16 entry, Text.ofDigits 16 entry)

/-- The ranges that a table lists. -/
def ranges (lines : List String) : List (Nat × Nat) :=
  (entries lines).map range

/-- Whether a character lies in one of some ranges. -/
def inRanges (rs : List (Nat × Nat)) (c : Char) : Bool :=
  rs.any fun r => r.1 ≤ c.toNat && c.toNat ≤ r.2

end LuServer.Character
