/-
# Digits

* `Text.digitValue`: the value of a digit; letters count from ten on.
* `Text.isHex`: the hexadecimal digits.
* `Text.ofDigits`: the number that digits write.
-/
import LuServer.Text.Blank

namespace LuServer.Text

/-- The value of a digit; letters count from ten on. -/
def digitValue (c : Char) : Nat :=
  if c.isDigit then c.toNat - '0'.toNat else c.toLower.toNat - 'a'.toNat + 10

/-- Whether a character is a hexadecimal digit. -/
def isHex (c : Char) : Bool :=
  c.isDigit || ('a' ≤ c.toLower && c.toLower ≤ 'f')

/-- The number that digits write. -/
def ofDigits (base : Nat) (ds : Text) : Nat :=
  ds.foldl (fun n c => n * base + digitValue c) 0

end LuServer.Text
