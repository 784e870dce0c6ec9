/-
# Positions

Editors count columns in UTF-16 code units.  A position names a line and such a
column; a column inside a pair of units stands for the place after the pair,
and a column past the end of its line for the end.

* `Text.width`: the length of a text in UTF-16 units.
* `Text.takeUnits`: the shortest beginning of a text that has a given width.
* `Text.upToCaret`: a line's text before a position.
* `Text.byteOffset?`: a position as an offset into the UTF-8 form of the text.
-/
import LuServer.Text.Lines

namespace LuServer

/-- A place in a text: a line, counted from 0, and a column in UTF-16 units. -/
structure Position where
  line : Nat
  character : Nat
deriving DecidableEq, Repr, Inhabited

/-- A stretch of a text from a first position up to a last one. -/
structure Range where
  start : Position
  stop : Position
deriving DecidableEq, Repr, Inhabited

namespace Range

/-- The empty range at a position. -/
def point (p : Position) : Range :=
  ⟨p, p⟩

/-- The first `width` columns of a line. -/
def ofLine (line width : Nat) : Range :=
  ⟨⟨line, 0⟩, ⟨line, width⟩⟩

end Range

namespace Text

/-- UTF-16 units of one character. -/
def units (c : Char) : Nat :=
  if c.toNat < 0x10000 then 1 else 2

/-- UTF-16 units of a text. -/
def width : Text → Nat
  | [] => 0
  | c :: r => units c + width r

/-- The shortest beginning of a text with at least `n` units, or all of it. -/
def takeUnits : Nat → Text → Text
  | 0, _ => []
  | _ + 1, [] => []
  | n + 1, c :: r => c :: takeUnits (n + 1 - units c) r

/-- UTF-8 bytes of a text. -/
def byteSize : Text → Nat
  | [] => 0
  | c :: r => c.utf8Size + byteSize r

/-- The size of lines together with the line feed after each of them. -/
def sizeOfLines (size : Text → Nat) : List Text → Nat
  | [] => 0
  | l :: ls => size l + 1 + sizeOfLines size ls

/-- The offset at which line `n` starts, in bytes. -/
def lineStart (t : Text) (n : Nat) : Nat :=
  sizeOfLines byteSize ((rawLines t).take n)

/-- The text of a position's line before it; empty past the last line. -/
def upToCaret (t : Text) (p : Position) : Text :=
  match line? t p.line with
  | none => []
  | some l => takeUnits p.character l

/-- The offset of a position in bytes, if its line exists. -/
def byteOffset? (t : Text) (p : Position) : Option Nat :=
  (line? t p.line).map fun l => lineStart t p.line + byteSize (takeUnits p.character l)

/-- The width of line `n`, 0 past the last line. -/
def lineWidth (t : Text) (n : Nat) : Nat :=
  width ((line? t n).getD [])

theorem units_pos (c : Char) : 0 < units c := by
  unfold units; split <;> decide

@[simp] theorem width_cons (c : Char) (t : Text) : width (c :: t) = units c + width t := rfl

@[simp] theorem takeUnits_zero (t : Text) : takeUnits 0 t = [] := by
  cases t <;> rfl

theorem takeUnits_cons {n : Nat} (hn : 0 < n) (c : Char) (t : Text) :
    takeUnits n (c :: t) = c :: takeUnits (n - units c) t := by
  obtain ⟨k, rfl⟩ := Nat.exists_eq_add_of_lt hn
  rw [Nat.zero_add, takeUnits]

theorem takeUnits_of_width_le {n : Nat} {t : Text} (h : t.width ≤ n) : takeUnits n t = t := by
  induction t generalizing n with
  | nil => cases n <;> rfl
  | cons c t ih =>
    have hc := units_pos c
    rw [width_cons] at h
    rw [takeUnits_cons (by omega), ih (by omega)]

theorem takeUnits_prefix (n : Nat) (t : Text) : takeUnits n t <+: t := by
  fun_induction takeUnits n t with
  | case1 => simp
  | case2 => simp
  | case3 n c r ih => simpa using ih

end Text

end LuServer
