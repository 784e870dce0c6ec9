/-
# Edits by byte offsets

An editor applies an edit to the bytes of a text: the ends of the range become offsets, and
what stands between them is replaced.  That fails if an end is on no line, if an offset falls
inside a character, or if the range ends before it starts.  Neither happens at the start and the
end of a line, and what is put there changes the lines in a plain way.

* `TextEdit.replaced?`, `TextEdit.removed?`: a text after an edit, and what the edit takes out of
  it, if it can be applied.
* `TextEdit.replaced?_append`, `TextEdit.removes_append`: the text around a range that is known to
  be there.
* `TextEdit.lines_insertion`, `TextEdit.lines_deletion`: the lines after a text is put in front of
  one of them, and after two of them are removed.
-/
import LuServer.Proofs.Text.Offsets

namespace LuServer

namespace TextEdit

/-- A text with the range of an edit replaced, if both ends of it are places of the text and
follow one another. -/
def replaced? (e : TextEdit) (t : Text) : Option Text := do
  let i ← t.byteOffset? e.range.start
  let j ← t.byteOffset? e.range.stop
  let before ← t.slice? 0 i
  let _ ← t.slice? i j
  let after ← t.slice? j t.byteSize
  return before ++ e.newText ++ after

/-- What an edit takes out of a text, if both ends of its range are places of the text and follow
one another. -/
def removed? (e : TextEdit) (t : Text) : Option Text := do
  let i ← t.byteOffset? e.range.start
  let j ← t.byteOffset? e.range.stop
  t.slice? i j

/-- An edit can be applied, takes `old` out of a text, and leaves what stands around it. -/
structure Removes (e : TextEdit) (t old : Text) : Prop where
  removed : e.removed? t = some old
  applied : ∃ before after, t = before ++ old ++ after ∧
    e.replaced? t = some (before ++ e.newText ++ after)

/-- Only what stands in the range is replaced. -/
theorem replaced?_append {e : TextEdit} {t before old after : Text} (ht : t = before ++ old ++ after)
    (hstart : t.byteOffset? e.range.start = some before.byteSize)
    (hstop : t.byteOffset? e.range.stop = some (before.byteSize + old.byteSize)) :
    e.replaced? t = some (before ++ e.newText ++ after) := by
  have hbefore : t.slice? 0 before.byteSize = some before := by
    rw [ht, List.append_assoc]
    exact Text.slice?_start before (old ++ after)
  have hold : t.slice? before.byteSize (before.byteSize + old.byteSize) = some old := by
    rw [ht]
    exact Text.slice?_append before old after rfl rfl
  have hafter : t.slice? (before.byteSize + old.byteSize) t.byteSize = some after := by
    rw [ht, ← Text.byteSize_append]
    exact Text.slice?_end (before ++ old) after
  simp only [replaced?, hstart, hstop, Option.bind_eq_bind, Option.bind_some, hbefore, hold, hafter]
  rfl

theorem removes_append {e : TextEdit} {t before old after : Text} (ht : t = before ++ old ++ after)
    (hstart : t.byteOffset? e.range.start = some before.byteSize)
    (hstop : t.byteOffset? e.range.stop = some (before.byteSize + old.byteSize)) :
    e.Removes t old := by
  refine ⟨?_, before, after, ht, replaced?_append ht hstart hstop⟩
  rw [removed?, hstart, hstop, ht]
  exact Text.slice?_append before old after rfl rfl

end TextEdit

namespace Text

/-! ## Places of a line -/

section Line

variable {t : Text} {n : Nat} {before : List Text} {raw : Text} {after : List Text}
  (hraw : t.rawLines = before ++ raw :: after) (hn : before.length = n)

include hraw hn

theorem line?_of_raw : t.line? n = some (dropReturn raw) := by
  rw [line?, lines, hraw, List.map_append, List.map_cons, List.getElem?_append_right (by simp [hn])]
  simp [hn]

theorem lineStart_of_raw : t.lineStart n = (closedLines before).byteSize := by
  rw [lineStart, hraw, List.take_left' hn, LineOffsets.sizeOfLines_byteSize]

theorem upToCaret_of_raw (c : Nat) : t.upToCaret ⟨n, c⟩ = takeUnits c (dropReturn raw) := by
  rw [upToCaret]
  dsimp only
  rw [line?_of_raw hraw hn]

/-- A column of the line is an offset after all lines before it. -/
theorem byteOffset?_of_raw (c : Nat) :
    t.byteOffset? ⟨n, c⟩
      = some ((closedLines before).byteSize + (takeUnits c (dropReturn raw)).byteSize) := by
  rw [byteOffset?, line?_of_raw hraw hn, Option.map_some, lineStart_of_raw hraw hn]

theorem byteOffset?_start : t.byteOffset? ⟨n, 0⟩ = some (closedLines before).byteSize := by
  rw [byteOffset?_of_raw hraw hn, takeUnits_zero, byteSize_nil, Nat.add_zero]

theorem byteOffset?_stop :
    t.byteOffset? ⟨n, t.lineWidth n⟩
      = some ((closedLines before).byteSize + (dropReturn raw).byteSize) := by
  rw [byteOffset?_of_raw hraw hn, lineWidth, line?_of_raw hraw hn, Option.getD_some,
    takeUnits_of_width_le (Nat.le_refl _)]

end Line

theorem exists_line {t : Text} {n : Nat} (h : n < t.lineCount) : ∃ l, t.line? n = some l :=
  Option.ne_none_iff_exists'.mp (mt line?_eq_none_iff.mp (Nat.not_le.mpr h))

/-- A line as it stands, and those before and after it. -/
theorem exists_raw {t : Text} {n : Nat} (h : n < t.lineCount) :
    ∃ before raw after, t.rawLines = before ++ raw :: after ∧ before.length = n := by
  rw [lineCount, length_lines] at h
  obtain ⟨before, after, hraw, hn⟩ := exists_lines_around (List.getElem?_eq_getElem h)
  exact ⟨before, _, after, hraw, hn⟩

/-- Two lines that follow one another as they stand, and those around them. -/
theorem exists_two_raw {t : Text} {n : Nat} (h : n + 1 < t.lineCount) :
    ∃ before first second after, t.rawLines = before ++ first :: second :: after ∧
      before.length = n := by
  obtain ⟨before, first, rest, hraw, hn⟩ := exists_raw (Nat.lt_of_succ_lt h)
  obtain ⟨second, after, rfl⟩ : ∃ second after, rest = second :: after := by
    refine List.exists_cons_of_ne_nil ?_
    rintro rfl
    rw [lineCount, length_lines, hraw, List.length_append, List.length_singleton, hn] at h
    exact Nat.lt_irrefl _ h
  exact ⟨before, first, second, after, hraw, hn⟩

section TwoLines

variable {t : Text} {n : Nat} {before : List Text} {first second : Text} {after : List Text}
  (hraw : t.rawLines = before ++ first :: second :: after)

include hraw

/-- A text seen from two of its lines. -/
theorem eq_around_two :
    ∃ ending, (ending = [] ∨ ending = ['\r']) ∧
      t = closedLines before ++ (first ++ '\n' :: dropReturn second)
        ++ (ending ++ openedLines after) := by
  obtain ⟨ending, hending, hblank⟩ := exists_ending second
  refine ⟨ending, hblank, ?_⟩
  calc t = closedLines before ++ first ++ openedLines (second :: after) :=
        LineOffsets.eq_around_raw hraw
    _ = closedLines before ++ first ++ ('\n' :: (dropReturn second ++ ending)
          ++ openedLines after) := by
        rw [← hending, openedLines, List.flatMap_cons, ← openedLines]
    _ = _ := by simp

theorem byteOffset?_stop_second (hn : before.length = n) :
    t.byteOffset? ⟨n + 1, t.lineWidth (n + 1)⟩
      = some ((closedLines before).byteSize + byteSize (first ++ '\n' :: dropReturn second)) := by
  have hsecond : t.rawLines = (before ++ [first]) ++ second :: after := by
    rw [hraw, List.append_assoc, List.singleton_append]
  rw [byteOffset?_stop hsecond (by simp [hn]), closedLines, List.flatMap_append,
    List.flatMap_singleton, ← closedLines]
  simp [Nat.add_assoc]

end TwoLines

/-- Lines put in the place of others are found again, each without its ending. -/
theorem lines_ofLines_append {t : Text} {before old after new : List Text}
    (hraw : t.rawLines = before ++ old ++ after) (hne : new ≠ []) (hnew : ∀ l ∈ new, '\n' ∉ l) :
    (ofLines (before ++ new ++ after)).lines
      = before.map dropReturn ++ new.map dropReturn ++ after.map dropReturn := by
  have hkept : ∀ l ∈ before ++ old ++ after, '\n' ∉ l := by
    intro l hl
    exact not_mem_of_mem_rawLines (hraw ▸ hl)
  have hall : ∀ l ∈ before ++ new ++ after, '\n' ∉ l := by
    intro l hl
    rcases List.mem_append.mp hl with hl | hl
    · rcases List.mem_append.mp hl with hl | hl
      · exact hkept l (by simp [hl])
      · exact hnew l hl
    · exact hkept l (by simp [hl])
  rw [lines, rawLines_ofLines hall (by simp [hne]), List.map_append, List.map_append]

end Text

namespace TextEdit

/-! ## Lines after an edit -/

/-- A text that is put in front of a line becomes part of it, and no other line changes. -/
theorem lines_insertion {t l new : Text} {n : Nat} (hl : t.line? n = some l) (hfeed : '\n' ∉ new)
    (hreturn : '\r' ∉ new) :
    ∃ u, (insertion ⟨n, 0⟩ new).replaced? t = some u ∧ u.lines = t.lines.set n (new ++ l) := by
  obtain ⟨before, raw, after, hraw, hn⟩ := Text.exists_raw (t := t) (n := n) (by
    rw [← Nat.not_le, ← Text.line?_eq_none_iff, hl]
    exact Option.some_ne_none l)
  obtain rfl : Text.dropReturn raw = l := by
    rw [Text.line?_of_raw hraw hn] at hl
    exact Option.some.inj hl
  have ht : t = Text.closedLines before ++ [] ++ (raw ++ Text.openedLines after) := by
    rw [LineOffsets.eq_around_raw hraw, List.append_nil, List.append_assoc]
  refine ⟨Text.ofLines (before ++ [new ++ raw] ++ after), ?_, ?_⟩
  · rw [replaced?_append ht (Text.byteOffset?_start hraw hn) (Text.byteOffset?_start hraw hn),
      List.append_assoc before, List.singleton_append, Text.ofLines_append_cons, insertion]
    simp
  · have hraw' : t.rawLines = before ++ [raw] ++ after := by
      rw [hraw, List.append_assoc, List.singleton_append]
    have hnew : ∀ l ∈ [new ++ raw], '\n' ∉ l := by
      have hold : '\n' ∉ raw := Text.not_mem_of_mem_rawLines (t := t) (by simp [hraw])
      simp [hfeed, hold]
    rw [Text.lines_ofLines_append hraw' (List.cons_ne_nil _ _) hnew, Text.lines, hraw,
      List.map_append, List.set_append_right _ _ (by simp [hn]), List.length_map, hn, Nat.sub_self,
      List.map_cons (l := after), List.set_cons_zero, List.map_singleton,
      Text.dropReturn_append hreturn, List.append_assoc, List.singleton_append]

/-- Two lines that are removed, from the start of the first to the end of the second, leave an
empty line. -/
theorem lines_deletion {t : Text} {n : Nat} (h : n + 1 < t.lineCount) :
    ∃ u, (deletion ⟨⟨n, 0⟩, ⟨n + 1, t.lineWidth (n + 1)⟩⟩).replaced? t = some u ∧
      u.lines = t.lines.take n ++ [[]] ++ t.lines.drop (n + 2) := by
  obtain ⟨before, first, second, after, hraw, hn⟩ := Text.exists_two_raw h
  obtain ⟨ending, hblank, ht⟩ := Text.eq_around_two hraw
  refine ⟨Text.ofLines (before ++ [ending] ++ after), ?_, ?_⟩
  · rw [replaced?_append ht (Text.byteOffset?_start hraw hn) (Text.byteOffset?_stop_second hraw hn),
      List.append_assoc before, List.singleton_append, Text.ofLines_append_cons, deletion]
    simp
  · have hraw' : t.rawLines = before ++ [first, second] ++ after := by
      rw [hraw, List.append_assoc]
      rfl
    have hfeed : ∀ l ∈ [ending], '\n' ∉ l := by
      rcases hblank with rfl | rfl <;> decide
    have hempty : Text.dropReturn ending = [] := by
      rcases hblank with rfl | rfl <;> rfl
    have hlines : t.lines = before.map Text.dropReturn
        ++ ([first, second].map Text.dropReturn ++ after.map Text.dropReturn) := by
      rw [Text.lines, hraw', List.map_append, List.map_append, List.append_assoc]
    rw [Text.lines_ofLines_append hraw' (List.cons_ne_nil _ _) hfeed, List.map_singleton, hempty,
      hlines, List.take_left' (by simp [hn]), ← List.append_assoc _ _ (after.map _),
      List.drop_left' (by simp [hn])]

end TextEdit

end LuServer
