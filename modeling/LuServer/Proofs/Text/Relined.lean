/-
# Texts around a line

A text is its lines with line feeds between them.  Seen from one of its lines it is the
lines before, each closed by a line feed, the line itself, and the lines after, each
opened by one.  Putting other lines in the place of one changes nothing around it.

* `ofLines_append_cons`: a text seen from one of its lines.
* `rawLines_ofLines`: lines that are joined are found again.
* `trim_lines_withoutLine`: the lines of a text without one of them.
* `offset_of_line`, `offset_of_lineEnd`: where a line starts and ends.
-/
import LuServer.Proofs.Text.Trim
import LuServer.Text.Edit

namespace LuServer.Text

/-! ## Lines joined and found again -/

/-- Lines with a line feed after each of them. -/
def closedLines (ls : List Text) : Text :=
  ls.flatMap (· ++ ['\n'])

/-- Lines with a line feed before each of them. -/
def openedLines (ls : List Text) : Text :=
  ls.flatMap ('\n' :: ·)

theorem ofLines_cons (l : Text) (ls : List Text) : ofLines (l :: ls) = l ++ openedLines ls := by
  induction ls generalizing l with
  | nil => simp [ofLines, openedLines, List.intercalate]
  | cons m ls ih =>
    have htail : ofLines (m :: ls) = m ++ openedLines ls := ih m
    rw [ofLines] at htail
    rw [ofLines, List.intercalate_cons_cons, htail, openedLines, openedLines, List.flatMap_cons]
    simp

/-- A text seen from one of its lines. -/
theorem ofLines_append_cons (before : List Text) (l : Text) (after : List Text) :
    ofLines (before ++ l :: after) = closedLines before ++ l ++ openedLines after := by
  induction before with
  | nil => simpa [closedLines] using ofLines_cons l after
  | cons m before ih =>
    rw [List.cons_append, ofLines_cons, closedLines, List.flatMap_cons, ← closedLines]
    cases before with
    | nil => simp [closedLines, openedLines]
    | cons k before =>
      rw [List.cons_append, ofLines_cons] at ih
      rw [List.cons_append, openedLines, List.flatMap_cons, ← openedLines, List.append_assoc,
        List.append_assoc, List.append_assoc, ← List.append_assoc _ l, ← ih]
      rfl

theorem ofLines_rawLines (t : Text) : ofLines (rawLines t) = t :=
  List.intercalate_splitOn '\n'

theorem rawLines_ofLines {ls : List Text} (h : ∀ l ∈ ls, '\n' ∉ l) (hne : ls ≠ []) :
    rawLines (ofLines ls) = ls :=
  List.splitOn_intercalate '\n' h hne

theorem rawLines_feed (t : Text) : rawLines ('\n' :: t) = [] :: rawLines t := by
  rw [rawLines, List.splitOn_cons_eq_if_modifyHead, if_pos (by decide), rawLines]

theorem rawLines_cons {c : Char} (hc : c ≠ '\n') (t : Text) :
    rawLines (c :: t) = (rawLines t).modifyHead (c :: ·) := by
  rw [rawLines, List.splitOn_cons_eq_if_modifyHead, if_neg (by simpa using hc), rawLines]

/-- No line has a line feed in it. -/
theorem not_mem_of_mem_rawLines {t l : Text} (h : l ∈ rawLines t) : '\n' ∉ l := by
  induction t generalizing l with
  | nil =>
    rw [rawLines, List.splitOn_nil, List.mem_singleton] at h
    simp [h]
  | cons c t ih =>
    by_cases hc : c = '\n'
    · subst hc
      rw [rawLines_feed] at h
      rcases List.mem_cons.mp h with rfl | h
      · simp
      · exact ih h
    · -- the character belongs to the first line of the rest
      obtain ⟨first, others, hlines⟩ := List.exists_cons_of_ne_nil (rawLines_ne_nil t)
      rw [rawLines_cons hc, hlines, List.modifyHead_cons, List.mem_cons] at h
      rcases h with rfl | h
      · have hfirst : '\n' ∉ first := ih (by simp [hlines])
        simp [hfirst, Ne.symm hc]
      · exact ih (by simp [hlines, h])

/-- A line stands at the start of the stretch that it is taken from. -/
theorem dropReturn_isPrefix (l : Text) : dropReturn l <+: l := by
  unfold dropReturn
  split
  · exact List.dropLast_prefix l
  · exact List.prefix_refl l

theorem dropReturn_subset (l : Text) : dropReturn l ⊆ l :=
  (dropReturn_isPrefix l).subset

theorem dropReturn_cons {c : Char} (hc : c ≠ '\r') (l : Text) :
    dropReturn (c :: l) = c :: dropReturn l := by
  cases l with
  | nil => simp [dropReturn, hc]
  | cons d l =>
    unfold dropReturn
    rw [List.getLast?_cons_cons, List.dropLast_cons_of_ne_nil (List.cons_ne_nil d l)]
    split <;> rfl

/-- What stands before a line does not touch its ending. -/
theorem dropReturn_append {s : Text} (hs : '\r' ∉ s) (l : Text) :
    dropReturn (s ++ l) = s ++ dropReturn l := by
  induction s with
  | nil => rfl
  | cons c s ih =>
    obtain ⟨hc, hs⟩ := not_or.mp (mt List.mem_cons.mpr hs)
    rw [List.cons_append, dropReturn_cons (Ne.symm hc), ih hs, List.cons_append]

/-- A line as it stands is the line and perhaps a carriage return. -/
theorem exists_ending (raw : Text) :
    ∃ ending, raw = dropReturn raw ++ ending ∧ (ending = [] ∨ ending = ['\r']) := by
  unfold dropReturn
  split
  · next hlast =>
    obtain ⟨s, rfl⟩ := List.getLast?_eq_some_iff.mp hlast
    exact ⟨['\r'], by rw [List.dropLast_concat], .inr rfl⟩
  · exact ⟨[], by rw [List.append_nil], .inl rfl⟩

theorem not_mem_of_mem_lines {t l : Text} (h : l ∈ lines t) : '\n' ∉ l := by
  obtain ⟨raw, hraw, rfl⟩ := List.mem_map.mp h
  intro hl
  exact not_mem_of_mem_rawLines hraw (dropReturn_subset raw hl)

/-- The lines before and after one of them. -/
theorem exists_lines_around {ls : List Text} {n : Nat} {l : Text} (h : ls[n]? = some l) :
    ∃ before after, ls = before ++ l :: after ∧ before.length = n := by
  obtain ⟨hn, hl⟩ := List.getElem?_eq_some_iff.mp h
  refine ⟨ls.take n, ls.drop (n + 1), ?_, List.length_take_of_le (Nat.le_of_lt hn)⟩
  rw [← hl, ← List.drop_eq_getElem_cons hn, List.take_append_drop]

/-! ## A text without one of its lines -/

/-- The lines of joined lines, trimmed, are the joined lines, trimmed; if there are none,
a blank line is left. -/
theorem trim_lines_ofLines {ls : List Text} (h : ∀ l ∈ ls, '\n' ∉ l) :
    (lines (ofLines ls)).map trim = if ls = [] then [[]] else ls.map trim := by
  split
  · next hnil => subst hnil; rfl
  · next hne =>
    rw [lines, rawLines_ofLines h hne, List.map_map]
    exact List.map_congr_left fun l _ => trim_dropReturn l

theorem trim_lines_withoutLine (t : Text) (n : Nat) :
    (lines (withoutLine t n)).map trim
      = if (lines t).eraseIdx n = [] then [[]] else ((lines t).eraseIdx n).map trim := by
  refine trim_lines_ofLines ?_
  intro l hl
  exact not_mem_of_mem_lines (List.mem_of_mem_eraseIdx hl)

/-! ## Where a line starts and ends -/

/-- Lines with a line feed after each of them, in any size that adds up and in which a line
feed counts 1. -/
theorem sizeOfLines_eq {size : Text → Nat} (hnil : size [] = 0) (hfeed : size ['\n'] = 1)
    (happend : ∀ s t, size (s ++ t) = size s + size t) (ls : List Text) :
    sizeOfLines size ls = size (closedLines ls) := by
  induction ls with
  | nil => exact hnil.symm
  | cons l ls ih =>
    rw [sizeOfLines, ih, closedLines, closedLines, List.flatMap_cons, happend, happend, hfeed]

theorem sizeOfLines_length (ls : List Text) :
    sizeOfLines List.length ls = (closedLines ls).length :=
  sizeOfLines_eq rfl rfl (fun _ _ => List.length_append) ls

theorem offset_of_line (t : Text) (n : Nat) :
    t.offset ⟨n, 0⟩ = (closedLines ((rawLines t).take n)).length := by
  have hcaret : upToCaret t ⟨n, 0⟩ = [] := by
    unfold upToCaret
    split
    · rfl
    · exact takeUnits_zero _
  rw [offset, sizeOfLines_length, hcaret, List.length_nil, Nat.add_zero]

theorem offset_of_lineEnd {t l : Text} {n : Nat} (h : t.line? n = some l) :
    t.offset ⟨n, l.width⟩ = (closedLines ((rawLines t).take n)).length + l.length := by
  rw [offset, sizeOfLines_length, upToCaret]
  dsimp only
  rw [h]
  dsimp only
  rw [takeUnits_of_width_le (Nat.le_refl _)]

end LuServer.Text
