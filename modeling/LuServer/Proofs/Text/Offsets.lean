/-
# Lines by byte offsets

A text in memory is a sequence of bytes, and its lines are found by the offsets at which
they start.  A line is cut out between its own offset and the next one, without the line
feed and without a carriage return before it.  What is cut out is the line, its width is the
line's width, and none of the cuts fails.

* `LineOffsets`: a text with the offsets at which its lines start.
* `LineOffsets.starts_ofText`: there is one offset for each line, after the lines before it.
* `LineOffsets.line?_ofText`, `LineOffsets.width?_ofText`: a line by its offsets is the line of the
  text, and no cut fails.
-/
import LuServer.Proofs.Text.Relined
import LuServer.Proofs.Text.Slice

namespace LuServer

/-- A text with the byte offsets at which its lines start. -/
structure LineOffsets where
  starts : List Nat
  source : Text

namespace LineOffsets

/-- The offsets after the line feeds of a text that stands at offset `i`. -/
def startsFrom (i : Nat) : Text → List Nat
  | [] => []
  | c :: t =>
    let rest := startsFrom (i + c.utf8Size) t
    if c = '\n' then (i + 1) :: rest else rest

/-- The index of a text, from one scan for its line feeds. -/
def ofText (t : Text) : LineOffsets :=
  ⟨0 :: startsFrom 0 t, t⟩

/-- The number of lines. -/
def lineCount (x : LineOffsets) : Nat :=
  x.starts.length

/-- The offsets between which line `n` stands, if there is such a line.  The cut that looks
for a carriage return can fail. -/
def bounds? (x : LineOffsets) (n : Nat) : Option (Option (Nat × Nat)) :=
  match x.starts[n]? with
  | none => some none
  | some start => do
    let stop := ((x.starts[n + 1]?).map (· - 1)).getD x.source.byteSize
    let raw ← x.source.slice? start stop
    return some (start, if raw.endsWith '\r' then stop - 1 else stop)

/-- The line with number `n`, if there is such a line and no cut fails. -/
def line? (x : LineOffsets) (n : Nat) : Option (Option Text) := do
  match ← x.bounds? n with
  | none => return none
  | some (start, stop) => return some (← x.source.slice? start stop)

/-- The width of line `n`, 0 past the last line, if no cut fails. -/
def width? (x : LineOffsets) (n : Nat) : Option Nat := do
  return Text.width ((← x.line? n).getD [])

/-! ## The offsets of lines -/

/-- The offsets at which lines start that follow one another from offset `i` on. -/
def offsets (i : Nat) : List Text → List Nat
  | [] => []
  | l :: ls => i :: offsets (i + l.byteSize + 1) ls

@[simp] theorem length_offsets (i : Nat) (ls : List Text) : (offsets i ls).length = ls.length := by
  induction ls generalizing i with
  | nil => rfl
  | cons l ls ih => rw [offsets, List.length_cons, List.length_cons, ih]

theorem offsets_append (i : Nat) (ls ms : List Text) :
    offsets i (ls ++ ms) = offsets i ls ++ offsets (i + Text.sizeOfLines Text.byteSize ls) ms := by
  induction ls generalizing i with
  | nil => rfl
  | cons l ls ih =>
    have hsize : i + l.byteSize + 1 + Text.sizeOfLines Text.byteSize ls
        = i + Text.sizeOfLines Text.byteSize (l :: ls) := by
      rw [Text.sizeOfLines]
      omega
    rw [List.cons_append, offsets, ih, hsize, offsets, List.cons_append]

/-- A scan for line feeds finds where the lines start. -/
theorem cons_startsFrom (i : Nat) (t : Text) : i :: startsFrom i t = offsets i t.rawLines := by
  induction t generalizing i with
  | nil => rfl
  | cons c t ih =>
    rw [startsFrom]
    by_cases hc : c = '\n'
    · subst hc
      rw [if_pos rfl, Text.rawLines_feed, offsets]
      exact congrArg (i :: ·) (ih (i + 1))
    · -- the character makes the first line longer
      obtain ⟨first, others, hlines⟩ := List.exists_cons_of_ne_nil (Text.rawLines_ne_nil t)
      have hrest := ih (i + c.utf8Size)
      rw [hlines, offsets, List.cons.injEq] at hrest
      rw [if_neg hc, Text.rawLines_cons hc, hlines, List.modifyHead_cons, offsets, hrest.2,
        Text.byteSize_cons, Nat.add_assoc i]

theorem starts_ofText (t : Text) : (ofText t).starts = offsets 0 t.rawLines :=
  cons_startsFrom 0 t

/-- There are as many offsets as lines. -/
theorem lineCount_ofText (t : Text) : (ofText t).lineCount = t.lineCount := by
  rw [lineCount, starts_ofText, length_offsets, Text.lineCount, Text.length_lines]

/-! ## A line by its offsets -/

theorem sizeOfLines_byteSize (ls : List Text) :
    Text.sizeOfLines Text.byteSize ls = (Text.closedLines ls).byteSize :=
  Text.sizeOfLines_eq rfl rfl Text.byteSize_append ls

/-- Without its carriage return a line ends one byte earlier. -/
theorem stop_dropReturn (i : Nat) (raw : Text) :
    (if raw.endsWith '\r' then i + raw.byteSize - 1 else i + raw.byteSize)
      = i + (Text.dropReturn raw).byteSize := by
  rw [Text.dropReturn, Text.endsWith]
  by_cases hlast : raw.getLast? = some '\r'
  · obtain ⟨s, rfl⟩ := List.getLast?_eq_some_iff.mp hlast
    have hsize : Text.byteSize (s ++ ['\r']) = Text.byteSize s + 1 := Text.byteSize_append s ['\r']
    rw [if_pos (by simp), if_pos (by simp), List.dropLast_concat, hsize]
    omega
  · rw [if_neg (by simpa using hlast), if_neg hlast]

section Line

variable {t : Text} {n : Nat} {before : List Text} {raw : Text} {after : List Text}
  (hraw : t.rawLines = before ++ raw :: after) (hn : before.length = n)

include hraw

theorem eq_around_raw : t = Text.closedLines before ++ raw ++ Text.openedLines after := by
  rw [← Text.ofLines_append_cons, ← hraw, Text.ofLines_rawLines]

include hn

theorem getElem?_starts : (ofText t).starts[n]? = some (Text.closedLines before).byteSize := by
  have hplace : n - (offsets 0 before).length = 0 := by
    rw [length_offsets, hn, Nat.sub_self]
  rw [starts_ofText, hraw, offsets_append, List.getElem?_append_right (by simp [hn]), hplace,
    offsets, List.getElem?_cons_zero, Nat.zero_add, sizeOfLines_byteSize]

/-- A line ends before the line feed in front of the next one, or with the text. -/
theorem stop_eq :
    (((ofText t).starts[n + 1]?).map (· - 1)).getD (ofText t).source.byteSize
      = (Text.closedLines before).byteSize + raw.byteSize := by
  have hplace : n + 1 - (offsets 0 before).length = 1 := by
    rw [length_offsets, hn, Nat.add_sub_cancel_left]
  rw [starts_ofText, hraw, offsets_append, List.getElem?_append_right (by simp [hn]), hplace,
    offsets, List.getElem?_cons_succ, Nat.zero_add, sizeOfLines_byteSize]
  cases after with
  | nil =>
    rw [offsets, List.getElem?_nil, Option.map_none, Option.getD_none, ofText,
      eq_around_raw hraw, Text.openedLines, List.flatMap_nil, List.append_nil,
      Text.byteSize_append]
  | cons next after =>
    rw [offsets, List.getElem?_cons_zero, Option.map_some, Option.getD_some, Nat.add_sub_cancel]

theorem bounds?_of_raw :
    (ofText t).bounds? n
      = some (some ((Text.closedLines before).byteSize,
          (Text.closedLines before).byteSize + (Text.dropReturn raw).byteSize)) := by
  have hcut : (ofText t).source.slice? (Text.closedLines before).byteSize
      ((Text.closedLines before).byteSize + raw.byteSize) = some raw := by
    rw [ofText, eq_around_raw hraw]
    exact Text.slice?_append _ raw _ rfl rfl
  rw [bounds?, getElem?_starts hraw hn]
  dsimp only
  rw [stop_eq hraw hn, hcut, Option.bind_eq_bind, Option.bind_some, stop_dropReturn]
  rfl

/-- A line by its offsets is the line without its ending. -/
theorem line?_of_raw : (ofText t).line? n = some (some (Text.dropReturn raw)) := by
  obtain ⟨ret, hret⟩ := Text.dropReturn_isPrefix raw
  have hcut : (ofText t).source.slice? (Text.closedLines before).byteSize
      ((Text.closedLines before).byteSize + (Text.dropReturn raw).byteSize)
        = some (Text.dropReturn raw) := by
    have ht : t = Text.closedLines before ++ Text.dropReturn raw
        ++ (ret ++ Text.openedLines after) := by
      rw [eq_around_raw hraw, List.append_assoc _ _ (ret ++ _), ← List.append_assoc _ ret, hret,
        List.append_assoc]
    rw [ofText, ht]
    exact Text.slice?_append _ (Text.dropReturn raw) _ rfl rfl
  rw [line?, bounds?_of_raw hraw hn, Option.bind_eq_bind, Option.bind_some]
  dsimp only
  rw [hcut]
  rfl

end Line

/-- Past the last line nothing is cut. -/
theorem bounds?_of_lineCount_le {t : Text} {n : Nat} (h : t.lineCount ≤ n) :
    (ofText t).bounds? n = some none := by
  have hnone : (ofText t).starts[n]? = none := by
    rw [List.getElem?_eq_none_iff, ← lineCount, lineCount_ofText]
    exact h
  rw [bounds?, hnone]

/-- A line by its offsets is the line of the text, and no cut fails. -/
theorem line?_ofText (t : Text) (n : Nat) : (ofText t).line? n = some (t.line? n) := by
  cases hraw : t.rawLines[n]? with
  | none =>
    have hcount : t.lineCount ≤ n := by
      rw [Text.lineCount, Text.length_lines]
      exact List.getElem?_eq_none_iff.mp hraw
    rw [line?, bounds?_of_lineCount_le hcount, Text.line?_eq_none_iff.mpr hcount]
    rfl
  | some raw =>
    obtain ⟨before, after, hlines, hn⟩ := Text.exists_lines_around hraw
    rw [line?_of_raw hlines hn, Text.line?, Text.lines, List.getElem?_map, hraw]
    rfl

/-- So is its width. -/
theorem width?_ofText (t : Text) (n : Nat) : (ofText t).width? n = some (t.lineWidth n) := by
  rw [width?, line?_ofText, Option.bind_eq_bind, Option.bind_some]
  rfl

end LineOffsets

end LuServer
