/-
# Marked lines

A text that cannot be read has one diagnostic for each of its rejected lines, over the whole
line and over nothing else.  The reader counts lines and widths while it splits the text; the
editor finds the same line, with the same width, by its byte offsets.

* `faultAt?`: the fault of a line, after the lines before it.
* `Draft.readAll_snd`: the rejected lines in closed form.
* `diagnose_of_error`, `diagnose_of_ok`: the diagnostics in closed form.
* `diagnostics_mark_rejected_lines`: they stand where the editor finds the rejected lines.
-/
import LuServer.Diagnostic
import LuServer.Proofs.Draft.Isolation
import LuServer.Proofs.Text.Offsets

namespace LuServer

namespace Draft

/-! ## Faults by line -/

/-- The fault of line `n` of `ls`, counted from 0, after the lines before it. -/
def faultAt? (d : Draft) (ls : List Text) (n : Nat) : Option Fault :=
  (ls[n]?).bind fun l => ((d.after (ls.take n)).read l).2

@[simp] theorem faultAt?_zero (d : Draft) (l : Text) (ls : List Text) :
    d.faultAt? (l :: ls) 0 = (d.read l).2 := rfl

@[simp] theorem faultAt?_succ (d : Draft) (l : Text) (ls : List Text) (n : Nat) :
    d.faultAt? (l :: ls) (n + 1) = (d.read l).1.faultAt? ls n := by
  rw [faultAt?, List.getElem?_cons_succ, List.take_succ_cons, after_cons, faultAt?]

/-- The rejection of line `n` of `ls`, where lines are counted from `k`. -/
def errorAt? (d : Draft) (k : Nat) (ls : List Text) (n : Nat) : Option SyntaxError :=
  (d.faultAt? ls n).map fun f => ⟨k + n, Text.width ((ls[n]?).getD []), f⟩

theorem errorAt?_succ (d : Draft) (k : Nat) (l : Text) (ls : List Text) (n : Nat) :
    d.errorAt? k (l :: ls) (n + 1) = (d.read l).1.errorAt? (k + 1) ls n := by
  rw [errorAt?, faultAt?_succ, List.getElem?_cons_succ, errorAt?, Nat.add_right_comm k 1 n,
    Nat.add_assoc]

/-- The rejected lines are those with a fault, in their order. -/
theorem readAll_snd (d : Draft) (k : Nat) (ls : List Text) :
    (d.readAll k ls).2 = (List.range ls.length).filterMap (d.errorAt? k ls) := by
  induction ls generalizing d k with
  | nil => rfl
  | cons l ls ih =>
    have hlater : (List.range ls.length).filterMap (d.errorAt? k (l :: ls) ∘ Nat.succ)
        = ((d.read l).1.readAll (k + 1) ls).2 := by
      rw [ih]
      congr 1
      funext n
      exact errorAt?_succ d k l ls n
    rw [readAll, List.length_cons, List.range_succ_eq_map, List.filterMap_cons, List.filterMap_map,
      hlater]
    -- the first line, rejected or not
    cases hfault : (d.read l).2 with
    | none => simp [errorAt?, hfault]
    | some fault => simp [errorAt?, hfault]

end Draft

/-- The fault of line `n` of a text, counted from 0, after the lines before it. -/
def faultAt? (text culture : Text) (n : Nat) : Option Fault :=
  (Draft.start culture).faultAt? text.lines n

/-- A rejected line is neither blank nor a comment. -/
theorem line_of_faultAt? {text culture : Text} {n : Nat} {fault : Fault}
    (h : faultAt? text culture n = some fault) :
    ∃ l, text.line? n = some l ∧ l.trim ≠ [] ∧ l.trim.head? ≠ some '>' := by
  rw [faultAt?, Draft.faultAt?, Option.bind_eq_some_iff] at h
  obtain ⟨l, hl, hfault⟩ := h
  have hactive : ¬ Line.Inert l := by
    intro hinert
    rw [Draft.read_of_inert hinert] at hfault
    cases hfault
  exact ⟨l, hl, fun hblank => hactive (.inl hblank), fun hcomment => hactive (.inr (.inl hcomment))⟩

/-! ## Diagnostics by line -/

/-- The diagnostic of a fault in line `n` of a text. -/
def markOf (text : Text) (n : Nat) (fault : Fault) : Diagnostic :=
  ⟨.ofLine n (text.lineWidth n), fault.message⟩

theorem ofComplaint_errorAt? (text culture : Text) (n : Nat) :
    ((Draft.start culture).errorAt? 1 text.lines n).map (fun e => .ofComplaint e.complaint)
      = (faultAt? text culture n).map (markOf text n) := by
  rw [Draft.errorAt?, Option.map_map, faultAt?]
  congr 1
  funext fault
  rw [Function.comp_apply, SyntaxError.complaint, Diagnostic.ofComplaint, Nat.add_sub_cancel_left]
  rfl

theorem ne_nil_of_parse_error {text culture : Text} {errors : List SyntaxError}
    (h : parse text culture = .error errors) : text ≠ [] := by
  rintro rfl
  cases h

/-- A text that cannot be read has the diagnostics of its rejected lines. -/
theorem diagnose_of_error {text culture : Text} {errors : List SyntaxError}
    (h : parse text culture = .error errors) :
    (diagnose text culture).value
      = (List.range text.lineCount).filterMap fun n =>
          (faultAt? text culture n).map (markOf text n) := by
  have herrors : ((Draft.start culture).readAll 1 text.lines).2 = errors := by
    rw [parse] at h
    dsimp only at h
    split at h
    · cases h
    · exact Except.error.inj h
  rw [diagnose, if_neg (ne_nil_of_parse_error h), Counted.parse, Counted.value_bind, h,
    Counted.value_pure, ← herrors, Draft.readAll_snd, List.map_filterMap, Text.lineCount]
  congr 1
  funext n
  exact ofComplaint_errorAt? text culture n

/-- A text that can be read has the diagnostics of its problems. -/
theorem diagnose_of_ok {text culture : Text} {m : Model} (h : parse text culture = .ok m) :
    (diagnose text culture).value = m.problems.map .ofProblem := by
  rw [diagnose]
  split
  · next hnil =>
    subst hnil
    obtain rfl := Except.ok.inj h
    rfl
  · rw [Counted.parse, Counted.value_bind, h]
    rfl

/-- The marked lines are the rejected ones. -/
theorem lines_of_marks (text culture : Text) (ns : List Nat) :
    (ns.filterMap fun n => (faultAt? text culture n).map (markOf text n)).map (·.range.start.line)
      = ns.filter fun n => (faultAt? text culture n).isSome := by
  rw [List.map_filterMap, ← List.filterMap_eq_filter]
  congr 1
  funext n
  cases hfault : faultAt? text culture n with
  | none => simp [Option.guard, hfault]
  | some fault => simp [Option.guard, hfault, markOf, Range.ofLine]

/-- **Marked lines.**  Let the lines of a text and their units be countable in 32 bits.  If the
text cannot be read, there is one diagnostic for each rejected line, in ascending order of the
lines; each covers exactly the line that the editor finds under its number, which is neither
blank nor a comment, and no count on the way leaves 32 bits.  If the text can be read, there is
one diagnostic for each problem of its model, in their order, at the start of the text. -/
theorem diagnostics_mark_rejected_lines (text culture : Text)
    (hcount : text.lineCount < UInt32.size - 1) (hwidth : ∀ l ∈ text.lines, l.width < UInt32.size) :
    (∀ errors, parse text culture = .error errors →
      (diagnose text culture).value.map (·.range.start.line)
        = (List.range (LineOffsets.ofText text).lineCount).filter
            (fun n => (faultAt? text culture n).isSome) ∧
      ((diagnose text culture).value.map (·.range.start.line)).Pairwise (· < ·) ∧
      ∀ d ∈ (diagnose text culture).value, ∃ n l width fault,
        (LineOffsets.ofText text).line? n = some (some l) ∧
        (LineOffsets.ofText text).width? n = some width ∧
        faultAt? text culture n = some fault ∧
        d = ⟨⟨⟨n, 0⟩, ⟨n, width⟩⟩, fault.message⟩ ∧
        l.trim ≠ [] ∧ l.trim.head? ≠ some '>' ∧
        n < (LineOffsets.ofText text).lineCount ∧ n + 1 < UInt32.size ∧ width < UInt32.size) ∧
    ∀ m, parse text culture = .ok m →
      (diagnose text culture).value
        = m.problems.map fun p => ⟨⟨⟨0, 0⟩, ⟨0, 1⟩⟩, p.message⟩ := by
  refine ⟨?_, fun m hparse => diagnose_of_ok hparse⟩
  intro errors hparse
  rw [diagnose_of_error hparse, lines_of_marks, LineOffsets.lineCount_ofText]
  refine ⟨rfl, List.pairwise_lt_range.filter _, ?_⟩
  intro d hd
  obtain ⟨n, hn, hmark⟩ := List.mem_filterMap.mp hd
  obtain ⟨fault, hfault, rfl⟩ := Option.map_eq_some_iff.mp hmark
  obtain ⟨l, hl, hblank, hcomment⟩ := line_of_faultAt? hfault
  have hbound : n < text.lineCount := List.mem_range.mp hn
  have hunits : text.lineWidth n < UInt32.size := by
    rw [Text.lineWidth, hl]
    exact hwidth l (List.mem_of_getElem? hl)
  exact ⟨n, l, text.lineWidth n, fault, by rw [LineOffsets.line?_ofText, hl],
    LineOffsets.width?_ofText text n, hfault, rfl, hblank, hcomment, hbound, by omega, hunits⟩

/-- Comments and a header between rejected lines, with both kinds of line endings and a
character of two units: the second, the fourth and the last line are marked. -/
theorem diagnostics_mark_rejected_lines_mixed :
    let text : Text := "> c\r\n- a\r\n# B\n- 😀\x7b\n@ list = x\r".toList
    text.lineCount < UInt32.size - 1 ∧ (∀ l ∈ text.lines, l.width < UInt32.size) ∧
      (∃ errors, parse text [] = .error errors) ∧
      (diagnose text []).value.map (·.range.start.line) = [1, 3, 4] := by
  intro text
  have hcount : text.lineCount < UInt32.size - 1 := by decide
  have hwidth : ∀ l ∈ text.lines, l.width < UInt32.size := by decide
  obtain ⟨errors, herrors⟩ : ∃ errors, parse text [] = .error errors := ⟨_, rfl⟩
  have hlines := ((diagnostics_mark_rejected_lines text [] hcount hwidth).1 errors herrors).1
  exact ⟨hcount, hwidth, ⟨errors, herrors⟩, hlines.trans (by decide)⟩

end LuServer
