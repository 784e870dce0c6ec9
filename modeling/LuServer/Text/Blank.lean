/-
# Texts and blanks

A text is the list of its characters, so that everything said about one can be
said by induction.  A character is blank when it has the Unicode property
White_Space; trimming removes the blanks at the ends of a text and nothing else.

* `Text.isBlank`: the property White_Space.
* `Text.trimStart`, `Text.trimEnd`, `Text.trim`: removal of blanks at the ends.
* `Text.trimQuotes`: removal of the double quotes at both ends.
-/
namespace LuServer

/-- A text, as the list of its characters. -/
abbrev Text := List Char

namespace Text

/-- Characters with the Unicode property White_Space. -/
def isBlank (c : Char) : Bool :=
  let n := c.toNat
  (9 ≤ n && n ≤ 13) || n == 0x20 || n == 0x85 || n == 0xA0 || n == 0x1680
    || (0x2000 ≤ n && n ≤ 0x200A) || n == 0x2028 || n == 0x2029 || n == 0x202F
    || n == 0x205F || n == 0x3000

/-- Drop from the end of a text while `p` holds. -/
def dropWhileEnd (p : Char → Bool) (t : Text) : Text :=
  (t.reverse.dropWhile p).reverse

/-- A text without its leading blanks. -/
def trimStart (t : Text) : Text :=
  t.dropWhile isBlank

/-- A text without its trailing blanks. -/
def trimEnd (t : Text) : Text :=
  dropWhileEnd isBlank t

/-- A text without the blanks at its two ends. -/
def trim (t : Text) : Text :=
  trimEnd (trimStart t)

/-- A text without the double quotes at its two ends. -/
def trimQuotes (t : Text) : Text :=
  dropWhileEnd (· == '"') (t.dropWhile (· == '"'))

/-- A text between its quotes: blanks, then quotes, then blanks again are
removed at both ends. -/
def unquote (t : Text) : Text :=
  trim (trimQuotes (trim t))

@[simp] theorem trimStart_nil : trimStart [] = [] := rfl

@[simp] theorem trim_nil : trim [] = [] := rfl

end Text

end LuServer
