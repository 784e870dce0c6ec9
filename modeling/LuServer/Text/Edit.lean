/-
# Edits

An edit replaces a range of a text.  The ranges of several edits all refer to
the text before any of them.

* `Text.offset`: a position as a number of characters.
* `TextEdit.applyAll`: a text after some edits.
-/
import LuServer.Text.Position

namespace LuServer

/-- A range and the text to put in its place. -/
structure TextEdit where
  range : Range
  newText : Text
deriving DecidableEq, Repr

namespace Text

/-- The number of characters before a position. -/
def offset (t : Text) (p : Position) : Nat :=
  sizeOfLines List.length ((rawLines t).take p.line) + (upToCaret t p).length

end Text

namespace TextEdit

/-- The insertion of a text at a position. -/
def insertion (p : Position) (newText : Text) : TextEdit :=
  ⟨.point p, newText⟩

/-- The removal of a range. -/
def deletion (r : Range) : TextEdit :=
  ⟨r, []⟩

/-- `t` with the characters from place `i` up to place `j` replaced. -/
def splice (t : Text) (i j : Nat) (newText : Text) : Text :=
  t.take i ++ newText ++ t.drop j

/-- A text after edits whose ranges follow one another. -/
def applyAll (t : Text) (edits : List TextEdit) : Text :=
  edits.foldr
    (fun e acc => splice acc (t.offset e.range.start) (t.offset e.range.stop) e.newText) t

end TextEdit

end LuServer
