/-
# One notion of line

Lines are found by the offsets after line feeds, or by a split at line feeds; both give the same
lines, and every reader of a document reads these.  A text that is put together from lines has
them as its lines again, unless one of them ends in a carriage return, which is then taken for a
part of the line's ending.  The mode at a line does not see the difference.

* `LineOffsets.lines?`, `LineOffsets.withoutLine?`, `LineOffsets.beforeLine?`: all lines, and texts
  put together from lines, by offsets.
* `Text.lineCount_eq`, `Text.lines_ofLines`: the number of lines, and the lines of joined lines.
* `Text.lines_withoutLine`, `Text.lines_beforeLine`: the lines of a text that has lost some.
* `Mode.advance_dropReturn`: a carriage return at the end of a line does not change its mode.
* `Mode.classify_beforeLine`: the modes of the lines above a line are those of the whole text.
* `one_notion_of_line`: offsets, splits and readers agree on the lines of a text.
-/
import LuServer.Draft
import LuServer.Mode
import LuServer.Proofs.Text.Columns

namespace LuServer

namespace Text

/-! ## Lines counted and joined -/

/-- There is one line more than line feeds. -/
theorem lineCount_eq (t : Text) : t.lineCount = t.count '\n' + 1 := by
  rw [lineCount, length_lines]
  induction t with
  | nil => rfl
  | cons c t ih =>
    by_cases hc : c = '\n'
    · subst hc
      rw [rawLines_feed, List.length_cons, ih, List.count_cons_self]
    · rw [rawLines_cons hc, List.length_modifyHead, ih, List.count_cons_of_ne hc]

/-- Lines that are joined are found again, each without its ending. -/
theorem lines_ofLines {ls : List Text} (h : ∀ l ∈ ls, '\n' ∉ l) (hne : ls ≠ []) :
    (ofLines ls).lines = ls.map dropReturn := by
  rw [lines, rawLines_ofLines h hne]

/-- They are found again as they were if none of them ends in a carriage return. -/
theorem lines_ofLines_of_not_return {ls : List Text} (hfeed : ∀ l ∈ ls, '\n' ∉ l)
    (hreturn : ∀ l ∈ ls, l.getLast? ≠ some '\r') :
    (ofLines ls).lines = if ls = [] then [[]] else ls := by
  split
  · next hnil => subst hnil; rfl
  · next hne =>
    have hsame : ∀ l ∈ ls, dropReturn l = id l := by
      intro l hl
      rw [dropReturn, if_neg (hreturn l hl), id]
    rw [lines_ofLines hfeed hne, List.map_congr_left hsame, List.map_id]

section Returns

variable {t : Text} (h : ∀ l ∈ t.lines, l.getLast? ≠ some '\r')

include h

theorem lines_withoutLine (n : Nat) :
    (t.withoutLine n).lines
      = if t.lines.eraseIdx n = [] then [[]] else t.lines.eraseIdx n := by
  have hkept : t.lines.eraseIdx n ⊆ t.lines := List.eraseIdx_subset
  exact lines_ofLines_of_not_return (fun l hl => not_mem_of_mem_lines (hkept hl))
    (fun l hl => h l (hkept hl))

theorem lines_beforeLine {n : Nat} (hn : 1 ≤ n) : (t.beforeLine n).lines = t.lines.take n := by
  have hkept : t.lines.take n ⊆ t.lines := List.take_subset n t.lines
  rw [beforeLine, lines_ofLines_of_not_return (fun l hl => not_mem_of_mem_lines (hkept hl))
    (fun l hl => h l (hkept hl)), if_neg]
  simp [Nat.ne_of_gt hn, lines_ne_nil]

end Returns

/-! ## Blanks after a line -/

theorem trimStart_append_blank {b : Char} (hb : isBlank b = true) (t : Text) :
    trimStart (t ++ [b]) = if trimStart t = [] then [] else trimStart t ++ [b] := by
  rw [trimStart, List.dropWhile_append, trimStart]
  split
  · next hblank => rw [if_pos (List.isEmpty_iff.mp hblank), List.dropWhile_cons, if_pos hb]; rfl
  · next hblank => rw [if_neg (by simpa using hblank)]

theorem dropStart?_append_blank {b : Char} {p : Text} (hp : b ∉ p) (t : Text) :
    dropStart? (t ++ [b]) p = (dropStart? t p).map (· ++ [b]) := by
  induction p generalizing t with
  | nil => cases t <;> rfl
  | cons a p ih =>
    obtain ⟨hab, hp⟩ := not_or.mp (mt List.mem_cons.mpr hp)
    cases t with
    | nil => simp [dropStart?, hab]
    | cons x t =>
      rw [List.cons_append, dropStart?, dropStart?, ih hp]
      split <;> rfl

end Text

namespace Mode

section Blank

variable {b : Char} (hblank : Text.isBlank b = true)

include hblank

theorem afterSign?_append_blank (c : Char) (l : Text) :
    afterSign? c (l ++ [b]) = (afterSign? c l).map (· ++ [b]) := by
  rw [afterSign?, afterSign?, Text.trimStart_append_blank hblank]
  cases l.trimStart with
  | nil => rfl
  | cons x r =>
    rw [if_neg (List.cons_ne_nil x r), List.cons_append, Text.dropHead?, Text.dropHead?]
    split <;> rfl

variable (hfeed : b ≠ '\n')

include hfeed

omit hblank in
theorem isOneLine_append_blank (t : Text) : isOneLine (t ++ [b]) = isOneLine t := by
  simp [isOneLine, Ne.symm hfeed]

theorem startsWith_append_blank (c : Char) (l : Text) : startsWith c (l ++ [b]) = startsWith c l := by
  rw [startsWith, startsWith, afterSign?_append_blank hblank, Option.any_map]
  congr 1
  funext rest
  exact isOneLine_append_blank hfeed rest

theorem isOneLine_trimStart_append_blank (t : Text) :
    isOneLine (t ++ [b]).trimStart = isOneLine t.trimStart := by
  rw [Text.trimStart_append_blank hblank]
  split
  · next hnil => rw [hnil]
  · exact isOneLine_append_blank hfeed _

theorem opens_append_blank {word : Text} (hword : b ∉ word) (l : Text) :
    opens word (l ++ [b]) = opens word l := by
  rw [opens, opens, afterSign?_append_blank hblank]
  cases afterSign? '@' l with
  | none => rfl
  | some rest =>
    rw [Option.map_some]
    dsimp only
    rw [Text.trimStart_append_blank hblank]
    split
    · next hnil => rw [hnil]
    · rw [Text.dropStart?_append_blank hword, Option.any_map]
      congr 1
      funext tail
      exact isOneLine_trimStart_append_blank hblank hfeed tail

/-- A blank at the end of a line does not change the mode. -/
theorem advance_append_blank (m : Mode) (l : Text) : m.advance (l ++ [b]) = m.advance l := by
  have hword : ∀ word ∈ ["list".toList, "ml".toList], b ∉ word := by
    intro word hmem hb
    -- no letter is blank
    have hletters : ∀ word ∈ ["list".toList, "ml".toList], word.any Text.isBlank = false := by
      decide
    exact List.any_eq_false.mp (hletters word hmem) b hb hblank
  rw [advance, advance, opens_append_blank hblank hfeed (hword _ (by simp)),
    opens_append_blank hblank hfeed (hword _ (by simp)), startsWith_append_blank hblank hfeed,
    startsWith_append_blank hblank hfeed, startsWith_append_blank hblank hfeed,
    afterSign?_append_blank hblank, Option.isSome_map]

end Blank

/-- Nor does a carriage return. -/
theorem advance_dropReturn (m : Mode) (l : Text) : m.advance (Text.dropReturn l) = m.advance l := by
  unfold Text.dropReturn
  split
  · next hlast =>
    obtain ⟨s, rfl⟩ := List.getLast?_eq_some_iff.mp hlast
    rw [List.dropLast_concat, advance_append_blank (by decide) (by decide)]
  · rfl

theorem afterLines_map_dropReturn (m : Mode) (ls : List Text) :
    m.afterLines (ls.map Text.dropReturn) = m.afterLines ls := by
  induction ls generalizing m with
  | nil => rfl
  | cons l ls ih => rw [List.map_cons, afterLines_cons, afterLines_cons, advance_dropReturn, ih]

/-- The modes of the lines above a line are those of the whole text, whatever the lines end in. -/
theorem classify_beforeLine {n k : Nat} (h : k ≤ n) (t : Text) :
    classify (t.beforeLine n) k = classify t k := by
  rcases Nat.eq_zero_or_pos n with rfl | hn
  · obtain rfl := Nat.le_zero.mp h
    rfl
  · have hfeed : ∀ l ∈ t.lines.take n, '\n' ∉ l :=
      fun l hl => Text.not_mem_of_mem_lines (List.mem_of_mem_take hl)
    have hne : t.lines.take n ≠ [] := by
      simp [Nat.ne_of_gt hn, Text.lines_ne_nil]
    rw [classify, Text.beforeLine, Text.lines_ofLines hfeed hne, ← List.map_take,
      afterLines_map_dropReturn, List.take_take, Nat.min_eq_left h, classify]

end Mode

namespace LineOffsets

/-! ## Texts put together by offsets -/

/-- All lines that there are, if no cut fails. -/
def lines? (x : LineOffsets) : Option (List Text) := do
  return (← (List.range x.lineCount).mapM x.line?).filterMap id

/-- The text without line `n`, if no cut fails. -/
def withoutLine? (x : LineOffsets) (n : Nat) : Option Text := do
  let kept := (← x.lines?).zipIdx.filter fun numbered => numbered.2 ≠ n
  return Text.ofLines (kept.map Prod.fst)

/-- The text of the lines before line `n`, if no cut fails. -/
def beforeLine? (x : LineOffsets) (n : Nat) : Option Text := do
  return Text.ofLines ((← x.lines?).take n)

theorem map_getElem?_range {α : Type} (xs : List α) :
    (List.range xs.length).map (fun n => xs[n]?) = xs.map some := by
  refine List.ext_getElem? ?_
  intro n
  by_cases hn : n < xs.length
  · simp [hn]
  · simp [Nat.le_of_not_lt hn]

/-- Without the member that is numbered `n` a list is left without its place `n`. -/
theorem map_fst_filter_zipIdx {α : Type} (xs : List α) (n k : Nat) :
    ((xs.zipIdx k).filter fun numbered => numbered.2 ≠ n + k).map Prod.fst = xs.eraseIdx n := by
  induction xs generalizing n k with
  | nil => rfl
  | cons x xs ih =>
    rw [List.zipIdx_cons, List.filter_cons]
    cases n with
    | zero =>
      have hlater : ∀ numbered ∈ xs.zipIdx (k + 1), numbered.2 ≠ 0 + k := by
        intro numbered hmem
        have hle := List.le_snd_of_mem_zipIdx hmem
        omega
      rw [if_neg (by simp), List.filter_eq_self.mpr (by simpa using hlater), List.zipIdx_map_fst,
        List.eraseIdx_cons_zero]
    | succ n =>
      rw [if_pos (by simp), List.map_cons, List.eraseIdx_cons_succ, ← ih n (k + 1),
        show n + 1 + k = n + (k + 1) by omega]

theorem lines?_ofText (t : Text) : (ofText t).lines? = some t.lines := by
  have hline : (ofText t).line? = fun n => pure (t.line? n) := funext (line?_ofText t)
  have hall : (List.range t.lineCount).map t.line? = t.lines.map some :=
    map_getElem?_range t.lines
  rw [lines?, hline, List.mapM_pure, lineCount_ofText, hall]
  exact congrArg some (by rw [List.filterMap_map]; exact List.filterMap_some)

theorem withoutLine?_ofText (t : Text) (n : Nat) :
    (ofText t).withoutLine? n = some (t.withoutLine n) := by
  rw [withoutLine?, lines?_ofText, Text.withoutLine, ← map_fst_filter_zipIdx t.lines n 0]
  rfl

theorem beforeLine?_ofText (t : Text) (n : Nat) :
    (ofText t).beforeLine? n = some (t.beforeLine n) := by
  rw [beforeLine?, lines?_ofText]
  rfl

end LineOffsets

/-- **One notion of line.**  No cut by offsets fails.  There is one line more than line feeds, and
line `n` is the stretch with that number between line feeds, without one carriage return at its end;
these are the lines that are read for a model and for the modes.  A text without one of its lines,
and the text before a line, has the remaining lines as its lines, if none of them ends in another
carriage return; the modes of the lines above a line are kept in any case. -/
theorem one_notion_of_line (t : Text) :
    (∀ n, (LineOffsets.ofText t).bounds? n ≠ none ∧
      (LineOffsets.ofText t).line? n = some (t.line? n) ∧
      (LineOffsets.ofText t).width? n = some (t.lineWidth n) ∧
      (∀ column, (∃ o, (LineOffsets.ofText t).offset? n column = some o) ∧
        ∃ s, (LineOffsets.ofText t).upToCaret? n column = some s) ∧
      (LineOffsets.ofText t).withoutLine? n = some (t.withoutLine n) ∧
      (LineOffsets.ofText t).beforeLine? n = some (t.beforeLine n)) ∧
    (LineOffsets.ofText t).lineCount = t.count '\n' + 1 ∧
    (∀ n, (LineOffsets.ofText t).line? n = some ((t.splitOn '\n').map Text.dropReturn)[n]?) ∧
    (∀ n, (LineOffsets.ofText t).line? n = some none ↔ (LineOffsets.ofText t).lineCount ≤ n) ∧
    (∃ ls, (LineOffsets.ofText t).lines? = some ls ∧
      (∀ culture, parse t culture
        = let (d, errors) := (Draft.start culture).readAll 1 ls
          if errors = [] then .ok d.finish else .error errors) ∧
      ∀ n, Mode.classify t n = Mode.afterLines .other (ls.take n)) ∧
    ((∀ l ∈ t.lines, l.getLast? ≠ some '\r') → ∀ n,
      (LineOffsets.ofText (t.withoutLine n)).lines?
        = some (if t.lines.eraseIdx n = [] then [[]] else t.lines.eraseIdx n) ∧
      (1 ≤ n → (LineOffsets.ofText (t.beforeLine n)).lines? = some (t.lines.take n))) ∧
    ∀ n k, k ≤ n → Mode.classify (t.beforeLine n) k = Mode.classify t k := by
  refine ⟨?_, ?_, LineOffsets.line?_ofText t, ?_, ?_, ?_,
    fun n k h => Mode.classify_beforeLine h t⟩
  · intro n
    have hbounds : (LineOffsets.ofText t).bounds? n ≠ none := by
      intro hnone
      have hline := LineOffsets.line?_ofText t n
      rw [LineOffsets.line?, hnone] at hline
      cases hline
    exact ⟨hbounds, LineOffsets.line?_ofText t n, LineOffsets.width?_ofText t n,
      LineOffsets.exists_offset?_ofText t n, LineOffsets.withoutLine?_ofText t n,
      LineOffsets.beforeLine?_ofText t n⟩
  · rw [LineOffsets.lineCount_ofText, Text.lineCount_eq]
  · intro n
    rw [LineOffsets.line?_ofText, Option.some.injEq, Text.line?_eq_none_iff,
      LineOffsets.lineCount_ofText]
  · exact ⟨t.lines, LineOffsets.lines?_ofText t, fun culture => rfl, fun n => rfl⟩
  · intro hreturn n
    rw [LineOffsets.lines?_ofText, LineOffsets.lines?_ofText, Text.lines_withoutLine hreturn]
    exact ⟨rfl, fun hn => congrArg some (Text.lines_beforeLine hreturn hn)⟩

/-- Both line endings, a line that is not closed, and lines that are numbered past the end. -/
theorem one_notion_of_line_mixed :
    let text : Text := "# é\r\n- 😀\n\n@ ml x".toList
    (∀ l ∈ text.lines, l.getLast? ≠ some '\r') ∧
      (LineOffsets.ofText text).lineCount = 4 ∧
      (LineOffsets.ofText (text.withoutLine 1)).lines?
        = some ["# é".toList, [], "@ ml x".toList] ∧
      (LineOffsets.ofText (text.withoutLine 7)).lines? = some text.lines ∧
      (LineOffsets.ofText (text.beforeLine 2)).lines? = some ["# é".toList, "- 😀".toList] ∧
      Mode.classify (text.beforeLine 2) 2 = Mode.classify text 2 := by
  intro text
  have hreturn : ∀ l ∈ text.lines, l.getLast? ≠ some '\r' := by decide
  obtain ⟨-, hcount, -, -, -, hlines, hmodes⟩ := one_notion_of_line text
  exact ⟨hreturn, hcount.trans (by decide), (hlines hreturn 1).1.trans (by decide),
    (hlines hreturn 7).1.trans (by decide), ((hlines hreturn 2).2 (by decide)).trans (by decide),
    hmodes 2 2 (Nat.le_refl 2)⟩

end LuServer
