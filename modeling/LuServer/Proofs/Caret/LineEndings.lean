/-
# Line endings

Some editors end a line with a line feed, others with a carriage return before it, and a
text may come with both.  Everything the library says about a text it says about its lines,
and a line does not include its ending, so the two kinds cannot be told apart.

* `Text.addReturns`: a text with a carriage return before some of its line feeds.
* `Text.lines_addReturns`: its lines are those of the text.
* `ReadAlike`: two texts that no reader tells apart.
* `readAlike_of_lines`: two texts with the same lines are read alike.
* `line_endings_read_alike`: so a text can be given any line endings.
-/
import LuServer.Caret.Completion
import LuServer.Caret.Continuation
import LuServer.Caret.Label
import LuServer.Diagnostic
import LuServer.Proofs.Text.Relined

namespace LuServer

/-! ## Carriage returns before line feeds -/

namespace Text

/-- A text with a carriage return before each line feed that is chosen, by its place in the
text. -/
def addReturns (chosen : Nat → Bool) : Text → Text
  | [] => []
  | c :: t =>
    let rest := addReturns (fun n => chosen (n + 1)) t
    if c = '\n' ∧ chosen 0 = true then '\r' :: c :: rest else c :: rest

theorem addReturns_eq_nil_iff (chosen : Nat → Bool) (t : Text) :
    addReturns chosen t = [] ↔ t = [] := by
  cases t with
  | nil => simp [addReturns]
  | cons c t =>
    rw [addReturns]
    split <;> simp

/-- A line feed ends an empty line. -/
theorem lines_feed (t : Text) : lines ('\n' :: t) = [] :: lines t := by
  rw [lines, rawLines_feed, List.map_cons, lines]
  rfl

/-- So does a carriage return with a line feed. -/
theorem lines_return_feed (t : Text) : lines ('\r' :: '\n' :: t) = [] :: lines t := by
  rw [lines, rawLines_cons (by decide), rawLines_feed, List.modifyHead_cons, List.map_cons, lines]
  rfl

/-- Any other character belongs to the first line of what follows. -/
theorem lines_cons {c : Char} (hfeed : c ≠ '\n') (hreturn : c ≠ '\r') (t : Text) :
    lines (c :: t) = (lines t).modifyHead (c :: ·) := by
  obtain ⟨first, others, hlines⟩ := List.exists_cons_of_ne_nil (rawLines_ne_nil t)
  rw [lines, rawLines_cons hfeed, lines, hlines, List.modifyHead_cons, List.map_cons, List.map_cons,
    List.modifyHead_cons, dropReturn_cons hreturn]

/-- Carriage returns before line feeds belong to no line. -/
theorem lines_addReturns (chosen : Nat → Bool) {t : Text} (ht : '\r' ∉ t) :
    lines (addReturns chosen t) = lines t := by
  induction t generalizing chosen with
  | nil => rfl
  | cons c t ih =>
    rw [List.mem_cons, not_or] at ht
    obtain ⟨hc, ht⟩ := ht
    have hrest := ih (fun n => chosen (n + 1)) ht
    rw [addReturns]
    by_cases hfeed : c = '\n'
    · subst hfeed
      split
      · rw [lines_return_feed, lines_feed, hrest]
      · rw [lines_feed, lines_feed, hrest]
    · rw [if_neg (fun h => hfeed h.1), lines_cons hfeed (Ne.symm hc), lines_cons hfeed (Ne.symm hc),
        hrest]

end Text

/-! ## Texts with the same lines -/

section SameLines

variable {s t : Text}

theorem parse_of_lines (h : s.lines = t.lines) (culture : Text) :
    parse s culture = parse t culture := by
  rw [parse, parse, h]

theorem extract?_of_lines (h : s.lines = t.lines) (culture : Text) :
    extract? s culture = extract? t culture := by
  rw [extract?, extract?, Counted.parse, Counted.parse, parse_of_lines h]

/-- The text without a line is made of lines alone. -/
theorem withoutLine_of_lines (h : s.lines = t.lines) (n : Nat) :
    s.withoutLine n = t.withoutLine n := by
  rw [Text.withoutLine, Text.withoutLine, h]

theorem extractAround?_of_lines (h : s.lines = t.lines) (n : Nat) (culture : Text) :
    extractAround? s n culture = extractAround? t n culture := by
  rw [extractAround?, extractAround?, extract?_of_lines h, withoutLine_of_lines h]

/-- Only the empty text is not read at all, so emptiness has to be the same as well. -/
theorem diagnose_of_lines (h : s.lines = t.lines) (hnil : s = [] ↔ t = []) (culture : Text) :
    diagnose s culture = diagnose t culture := by
  rw [diagnose, diagnose, Counted.parse, Counted.parse, parse_of_lines h]
  by_cases hs : s = []
  · rw [if_pos hs, if_pos (hnil.mp hs)]
  · rw [if_neg hs, if_neg (fun ht => hs (hnil.mpr ht))]

theorem classify_of_lines (h : s.lines = t.lines) (n : Nat) :
    Mode.classify s n = Mode.classify t n := by
  rw [Mode.classify, Mode.classify, h]

theorem line?_of_lines (h : s.lines = t.lines) (n : Nat) : s.line? n = t.line? n := by
  rw [Text.line?, Text.line?, h]

theorem upToCaret_of_lines (h : s.lines = t.lines) (p : Position) :
    s.upToCaret p = t.upToCaret p := by
  rw [Text.upToCaret, Text.upToCaret, line?_of_lines h]

theorem unlabelledCopies?_of_lines (h : s.lines = t.lines) (number : Nat) :
    unlabelledCopies? s number = unlabelledCopies? t number := by
  cases number with
  | zero => rfl
  | succ n => rw [unlabelledCopies?, unlabelledCopies?, line?_of_lines h]

end SameLines

/-! ## Completion -/

section Completion

variable {a b : CaretContext}

/-- A rule sees the line before the caret, and of the text only the model around it. -/
theorem items_of_model (hmodel : askModel a = askModel b) (hbefore : a.before = b.before)
    (r : Rule) : r.items a = r.items b := by
  cases r <;> simp only [Rule.items, askNames, hmodel, hbefore]

theorem collect_of_model (hmodel : askModel a = askModel b) (hbefore : a.before = b.before)
    (rs : List Rule) : Rule.collect a rs = Rule.collect b rs := by
  induction rs with
  | nil => rfl
  | cons r rs ih => rw [Rule.collect, Rule.collect, ih, items_of_model hmodel hbefore, hbefore]

theorem complete_of_lines {s t : Text} (h : s.lines = t.lines) (p : Position) (culture : Text) :
    complete s p culture = complete t p culture := by
  have hmodel : askModel (.ofPosition s p culture) = askModel (.ofPosition t p culture) := by
    simp only [askModel, CaretContext.ofPosition, extractAround?_of_lines h]
  rw [complete, complete, collect_of_model hmodel (upToCaret_of_lines h p)]

end Completion

/-! ## Continuation -/

section Continuation

open Continuation

variable {s t : Text}

theorem lineAbove_of_lines (h : s.lines = t.lines) (n : Nat) : lineAbove s n = lineAbove t n := by
  cases n with
  | zero => rfl
  | succ n => rw [lineAbove, lineAbove, line?_of_lines h]

theorem bullet?_of_lines (h : s.lines = t.lines) (version : Int) (n : Nat) :
    bullet? (.ofText s version) n = bullet? (.ofText t version) n := by
  have hmode : (Document.ofText s version).modeAt n = (Document.ofText t version).modeAt n := by
    simp only [Document.modeAt, Document.ofText, ModeCache.ofText, h]
  have hml : definesMl s n = definesMl t n := by
    rw [definesMl, definesMl, lineAbove_of_lines h, h]
  have hcount : s.lineCount = t.lineCount := by
    rw [Text.lineCount, Text.lineCount, h]
  unfold bullet?
  rw [hmode]
  simp only [Document.ofText, lineAbove_of_lines h, hml, hcount]
  rfl

theorem abandoned?_of_lines (h : s.lines = t.lines) (n : Nat) :
    abandoned? s n = abandoned? t n := by
  rw [abandoned?, abandoned?, lineAbove_of_lines h, Text.lineWidth, Text.lineWidth,
    line?_of_lines h]

theorem continueBlock_of_lines (h : s.lines = t.lines) (version : Int) (p : Position)
    (typed : Text) :
    continueBlock (.ofText s version) p typed = continueBlock (.ofText t version) p typed := by
  have habandoned : abandoned? (Document.ofText s version).text p.line
      = abandoned? (Document.ofText t version).text p.line := abandoned?_of_lines h p.line
  rw [continueBlock, continueBlock, bullet?_of_lines h, habandoned]

end Continuation

/-! ## Readers -/

/-- No reader tells two texts apart: neither what they declare nor their faults, with the
places of these, nor what is answered at any of their places. -/
structure ReadAlike (s t : Text) : Prop where
  parse : ∀ culture, parse s culture = parse t culture
  diagnose : ∀ culture, diagnose s culture = diagnose t culture
  classify : ∀ n, Mode.classify s n = Mode.classify t n
  extractAround : ∀ n culture, extractAround? s n culture = extractAround? t n culture
  complete : ∀ p culture, complete s p culture = complete t p culture
  continueBlock : ∀ version p typed,
    continueBlock (.ofText s version) p typed = continueBlock (.ofText t version) p typed
  unlabelledCopies : ∀ number, unlabelledCopies? s number = unlabelledCopies? t number

/-- Texts with the same lines are read alike, unless only one of them is empty. -/
theorem readAlike_of_lines {s t : Text} (h : s.lines = t.lines) (hnil : s = [] ↔ t = []) :
    ReadAlike s t where
  parse := parse_of_lines h
  diagnose := diagnose_of_lines h hnil
  classify := classify_of_lines h
  extractAround := extractAround?_of_lines h
  complete := complete_of_lines h
  continueBlock := continueBlock_of_lines h
  unlabelledCopies := unlabelledCopies?_of_lines h

/-- **Line endings.**  A text without carriage returns is read as it is with a carriage
return before any of its line feeds. -/
theorem line_endings_read_alike (t : Text) (ht : '\r' ∉ t) (chosen : Nat → Bool) :
    ReadAlike t (t.addReturns chosen) :=
  readAlike_of_lines (Text.lines_addReturns chosen ht).symm
    (Text.addReturns_eq_nil_iff chosen t).symm

/-- Of three line feeds the first and the last get a carriage return; the text is rejected in
the same line, over the same width, and the caret after the brace is offered the same. -/
theorem line_endings_read_alike_mixed :
    let text : Text := "# Book\n- a \x7bb\n- 😀 \x7b\n".toList
    let mixed : Text := "# Book\r\n- a \x7bb\n- 😀 \x7b\r\n".toList
    '\r' ∉ text ∧ text.addReturns (fun n => n ≠ 13) = mixed ∧
      diagnose text [] = diagnose mixed [] ∧
      complete text ⟨2, 6⟩ [] = complete mixed ⟨2, 6⟩ [] := by
  intro text mixed
  have hreturn : '\r' ∉ text := by decide
  have hmixed : text.addReturns (fun n => n ≠ 13) = mixed := by decide
  have halike := line_endings_read_alike text hreturn (fun n => n ≠ 13)
  rw [hmixed] at halike
  exact ⟨hreturn, hmixed, halike.diagnose [], halike.complete ⟨2, 6⟩ []⟩

end LuServer
