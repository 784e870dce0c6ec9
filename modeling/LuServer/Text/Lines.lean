/-
# Lines of a text

A text is cut into lines at each line feed; a line does not include one
carriage return at its end.  Every part of the library that speaks of lines
uses this one notion.

* `Text.lines`: the lines, at least one.
* `Text.line?`: the line with a given number, counted from 0.
* `Text.ofLines`: lines joined by line feeds.
* `Text.withoutLine`, `Text.beforeLine`: the text with one line removed, and
  the text of the lines before one.
-/
import LuServer.Text.Blank

namespace LuServer.Text

/-- A line without one carriage return at its end. -/
def dropReturn (l : Text) : Text :=
  if l.getLast? = some '\r' then l.dropLast else l

/-- The stretches between line feeds, as they stand. -/
def rawLines (t : Text) : List Text :=
  t.splitOn '\n'

/-- The lines of a text. -/
def lines (t : Text) : List Text :=
  (rawLines t).map dropReturn

/-- The number of lines: one more than the line feeds. -/
def lineCount (t : Text) : Nat :=
  (lines t).length

/-- The line with number `n`, if there is one. -/
def line? (t : Text) (n : Nat) : Option Text :=
  (lines t)[n]?

/-- Lines joined by line feeds. -/
def ofLines (ls : List Text) : Text :=
  ['\n'].intercalate ls

/-- The text with line `n` removed entirely. -/
def withoutLine (t : Text) (n : Nat) : Text :=
  ofLines ((lines t).eraseIdx n)

/-- The text of the lines before line `n`. -/
def beforeLine (t : Text) (n : Nat) : Text :=
  ofLines ((lines t).take n)

theorem rawLines_ne_nil (t : Text) : rawLines t ≠ [] := by
  simp [rawLines]

theorem lines_ne_nil (t : Text) : lines t ≠ [] := by
  simp [lines, rawLines_ne_nil]

@[simp] theorem length_lines (t : Text) : (lines t).length = (rawLines t).length := by
  simp [lines]

theorem line?_eq_none_iff {t : Text} {n : Nat} : line? t n = none ↔ lineCount t ≤ n := by
  simp [line?, lineCount]

end LuServer.Text
