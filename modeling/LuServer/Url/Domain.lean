/-
# Domain names

A domain name consists of labels with periods between them.  Before two names
are compared their characters are mapped and brought into normal form, and
labels that start with `xn--` are decoded.  What is left has to meet the rules
on marks, joiners and directions.

* `Domain.labels?`: the labels of a name as they are compared.
* `Domain.normal?`: the name with these labels.
-/
import LuServer.Character.Direction
import LuServer.Character.Joining
import LuServer.Character.Mapping
import LuServer.Character.Mark
import LuServer.Url.Punycode

namespace LuServer.Domain

/-- A text of ASCII characters. -/
def isAscii (t : Text) : Bool :=
  t.all fun c => c.toNat < 0x80

/-- ASCII characters that no domain name can have. -/
def isForbidden (c : Char) : Bool :=
  c.toNat ≤ 0x20 || c.toNat == 0x7F || "%#/:<>?@[\\]^|".toList.contains c

/-- A name with each character replaced by what it stands for, in normal
form. -/
def mapped? (t : Text) : Option Text :=
  (t.mapM Character.mapped?).map fun parts => Character.normal parts.flatten

/-- Whether a label that was decoded is as it would be without decoding. -/
def isStable (l : Text) : Bool :=
  l.all Character.isNameChar && Character.normal l == l

/-- The length that the code of a label cannot exceed. -/
def longestCode : Nat :=
  2000

/-- The length that a label beyond ASCII cannot exceed. -/
def longestLabel : Nat :=
  1000

/-- The label that a code writes. -/
def decode? (code : Text) : Option Text :=
  if isAscii code && !code.isEmpty && !code.endsWith '-' && code.length ≤ longestCode then
    (Punycode.decode? code).filter isStable
  else none

/-- A label, decoded if it starts with `xn--`. -/
def label? (l : Text) : Option Text :=
  match l.dropStart? "xn--".toList with
  | some code => decode? code
  | none => some l

/-- The rules on a label by itself. -/
def isLabel (l : Text) : Bool :=
  !l.any isForbidden && !l.head?.any Character.isMark && Character.joinersFit [] l
    && (isAscii l || l.length ≤ longestLabel)

/-- Labels of which one has characters from right to left all have to meet the
rule on directions. -/
def directionsFit (ls : List Text) : Bool :=
  !ls.any Character.hasRightToLeft || ls.all Character.fitsDirection

/-- The labels of a name as they are compared. -/
def labels? (t : Text) : Option (List Text) := do
  let name ← mapped? t
  let ls ← (name.splitOn '.').mapM label?
  if ls.all isLabel && directionsFit ls then some ls else none

/-- A name as it is compared. -/
def normal? (t : Text) : Option Text :=
  (labels? t).map (['.'].intercalate ·)

end LuServer.Domain
