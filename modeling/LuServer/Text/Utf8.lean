/-
# Bytes of a text

* `Text.toBytes`: the UTF-8 form of a text.
* `Text.ofBytes?`: the text of some bytes, if they are one.
* `Text.ofBytesLossy`: the text of some bytes, with a replacement character for
  each stretch that is none.
-/
import LuServer.Text.Blank

namespace LuServer.Text

/-- The UTF-8 form of a text. -/
def toBytes (t : Text) : List UInt8 :=
  t.flatMap String.utf8EncodeChar

/-- The text whose UTF-8 form `bytes` is. -/
def ofBytes? (bytes : List UInt8) : Option Text :=
  (String.fromUTF8? ⟨bytes.toArray⟩).map String.toList

/-- How a sequence of bytes goes on after its first: the number of further
bytes and the range of the next one. -/
def continuation (b : UInt8) : Option (Nat × UInt8 × UInt8) :=
  if 0xC2 ≤ b && b ≤ 0xDF then some (1, 0x80, 0xBF)
  else if b == 0xE0 then some (2, 0xA0, 0xBF)
  else if b == 0xED then some (2, 0x80, 0x9F)
  else if 0xE1 ≤ b && b ≤ 0xEF then some (2, 0x80, 0xBF)
  else if b == 0xF0 then some (3, 0x90, 0xBF)
  else if 0xF1 ≤ b && b ≤ 0xF3 then some (3, 0x80, 0xBF)
  else if b == 0xF4 then some (3, 0x80, 0x8F)
  else none

/-- The number of bytes in the longest beginning of `bytes` that continues a
sequence with `n` bytes to come, the next of them from `lo` to `hi`. -/
def continued : Nat → UInt8 → UInt8 → List UInt8 → Nat
  | n + 1, lo, hi, b :: rest =>
    if lo ≤ b && b ≤ hi then continued n 0x80 0xBF rest + 1 else 0
  | _, _, _, _ => 0

/-- The bytes cut into sequences, each with the mark whether it is complete.
`skip` bytes belong to the sequence before. -/
def sequences : Nat → List UInt8 → List (Bool × List UInt8)
  | _, [] => []
  | skip + 1, _ :: rest => sequences skip rest
  | 0, b :: rest =>
    if b < 0x80 then (true, [b]) :: sequences 0 rest
    else match continuation b with
      | none => (false, [b]) :: sequences 0 rest
      | some (n, lo, hi) =>
        let k := continued n lo hi rest
        (k == n, b :: rest.take k) :: sequences k rest

/-- The text of some bytes, with U+FFFD for each stretch that is no
character. -/
def ofBytesLossy (bytes : List UInt8) : Text :=
  (sequences 0 bytes).flatMap fun s =>
    if s.1 then (ofBytes? s.2).getD ['\uFFFD'] else ['\uFFFD']

end LuServer.Text
