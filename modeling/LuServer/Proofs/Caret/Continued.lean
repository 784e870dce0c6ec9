/-
# What a new line does

When a new line is begun the block above it goes on or ends.  It goes on with a bullet at the
start of the line, which leaves the line in its block and touches no other; or the bullet above
was left empty, and the two lines become one that is empty.  After that the caret is on a new
line again, below the next line up, so a stack of empty bullets is taken down one by one.

* `Continuation.Belongs`: which bullet belongs on a line, and when.
* `Continuation.bullet?_eq_some_iff`: a line gets the bullet that belongs there.
* `continueBlock_of_lone`, `continueBlock_of_not_lone`: what the edit is.
* `Continuation.inserts_bullet`, `Continuation.deletes_abandoned`: the text after it.
* `Continuation.collapses_loneAbove`: as many bullets are taken down as there are.
* `insertion_mem_continueBlock_iff`: where a bullet is inserted.
* `continueBlock_effect`: the results together.
-/
import LuServer.Caret.Continuation
import LuServer.Proofs.Text.Replaced

namespace LuServer

/-! ## Bullets and modes -/

/-- A bullet stays in its block. -/
theorem Mode.advance_bullet (m : Mode) {line rest : Text} (hline : line.trimStart = '-' :: rest)
    (hfeed : '\n' ∉ rest) : m.advance line = m := by
  have hother {c : Char} (hc : '-' ≠ c) : afterSign? c line = none := by
    rw [afterSign?, hline, Text.dropHead?, if_neg hc]
  have hbullet : startsWith '-' line = true := by
    rw [startsWith, afterSign?, hline, Text.dropHead?, if_pos rfl, Option.any_some, isOneLine]
    simpa using hfeed
  have hopens (word : Text) : opens word line = false := by
    rw [opens, hother (by decide)]
  have hheader : startsWith '#' line = false := by
    rw [startsWith, hother (by decide)]
    rfl
  rw [advance, hopens, hheader, hopens, hbullet]
  rfl

namespace Continuation

/-- The bullets that lines get. -/
def bullets : List Text :=
  ["- ", "-", "\t-", "\t-@"].map String.toList

theorem bullets_spelled : ∀ b ∈ bullets,
    b ≠ [] ∧ '\n' ∉ b ∧ '\r' ∉ b ∧ b.trimStart.head? = some '-' := by
  decide

/-- A line that gets a bullet stays in its block. -/
theorem advance_of_bullet {b l : Text} (hb : b ∈ bullets) (hl : '\n' ∉ l) (m : Mode) :
    m.advance (b ++ l) = m := by
  obtain ⟨-, hfeed, -, hsign⟩ := bullets_spelled b hb
  obtain ⟨tail, htail⟩ := List.head?_eq_some_iff.mp hsign
  rw [Text.trimStart] at htail
  have hrest : '\n' ∉ tail ++ l := by
    rw [List.mem_append]
    refine not_or.mpr ⟨fun hmem => hfeed ?_, hl⟩
    exact (List.dropWhile_suffix Text.isBlank).subset (htail ▸ List.mem_cons_of_mem '-' hmem)
  refine Mode.advance_bullet m ?_ hrest
  rw [Text.trimStart, List.dropWhile_append, htail]
  rfl

/-! ## Which edit it is -/

theorem lone_iff {t : Text} {n : Nat} :
    (lineAbove t n).trim = loneBullet ↔
      1 ≤ n ∧ ∃ l, t.line? (n - 1) = some l ∧ l.trim = loneBullet := by
  cases n with
  | zero => simp [lineAbove, loneBullet]
  | succ n =>
    rw [lineAbove, Nat.add_sub_cancel]
    cases t.line? n with
    | none => simp [loneBullet]
    | some l => simp

/-- Line `n` is the last, and the line above says something other than an empty bullet. -/
structure Trails (t : Text) (n : Nat) : Prop where
  last : n + 1 = t.lineCount
  ne_nil : (lineAbove t n).trim ≠ []
  ne_lone : (lineAbove t n).trim ≠ loneBullet

theorem trails_iff {t : Text} {n : Nat} :
    (goesOn (lineAbove t n) && decide (n + 1 = t.lineCount)) = true ↔ Trails t n := by
  rw [Bool.and_eq_true_iff, goesOn, decide_eq_true_iff, decide_eq_true_iff]
  exact ⟨fun ⟨⟨hnil, hlone⟩, hlast⟩ => ⟨hlast, hnil, hlone⟩,
    fun h => ⟨⟨h.ne_nil, h.ne_lone⟩, h.last⟩⟩

/-- The name that the line above defines has been declared for an ml entity by then. -/
theorem definesMl_iff {t : Text} {n : Nat} :
    definesMl t n = true ↔ ∃ name, Slot.mlName? (lineAbove t n) = some name ∧
      ∃ l ∈ t.lines.take n, Slot.mlDeclared? l = some name := by
  simp only [definesMl, Option.any_eq_true, List.contains_iff_mem, List.mem_filterMap]

/-- The ends of lines that open a list. -/
def listOpeners : List (Option Char) :=
  [some ':', some '=']

theorem mem_listOpeners_iff {t : Text} :
    (t.endsWith ':' || t.endsWith '=') = true ↔ t.getLast? ∈ listOpeners := by
  simp [Text.endsWith, listOpeners]

/-- The bullet that belongs at the start of line `n`. -/
inductive Belongs (d : Document) (n : Nat) : Text → Prop where
  /-- For the next utterance of an intent. -/
  | utterance : d.modeAt n = .utterance → Trails d.text n → Belongs d n "- ".toList
  /-- For a child, right below the line that defines an ml entity, which ends with `=`. -/
  | child {name l : Text} : d.modeAt n = .mlEntity →
      (lineAbove d.text n).trim.endsWith '=' = true →
      Slot.mlName? (lineAbove d.text n) = some name →
      l ∈ d.text.lines.take n → Slot.mlDeclared? l = some name → Belongs d n "\t-@".toList
  /-- For the first value of a list, or the first synonym of a value. -/
  | first : d.modeAt n = .listEntity → Trails d.text n →
      (lineAbove d.text n).trim.getLast? ∈ listOpeners → Belongs d n "\t-".toList
  /-- For the next one. -/
  | next : d.modeAt n = .listEntity → Trails d.text n →
      (lineAbove d.text n).trim.getLast? ∉ listOpeners → Belongs d n "-".toList

/-- A line gets the bullet that belongs there. -/
theorem bullet?_eq_some_iff {d : Document} {n : Nat} {b : Text} :
    bullet? d n = some b ↔ Belongs d n b := by
  constructor
  · intro h
    simp only [bullet?] at h
    split at h
    case h_1 hmode =>
      obtain ⟨htrails, hb⟩ := Option.ite_none_right_eq_some.mp h
      obtain rfl := Option.some.inj hb
      exact .utterance hmode (trails_iff.mp htrails)
    case h_2 hmode =>
      obtain ⟨hml, hb⟩ := Option.ite_none_right_eq_some.mp h
      obtain rfl := Option.some.inj hb
      obtain ⟨hequals, hdefines⟩ := Bool.and_eq_true_iff.mp hml
      obtain ⟨name, hname, l, hl, hdeclared⟩ := definesMl_iff.mp hdefines
      exact .child hmode hequals hname hl hdeclared
    case h_3 hmode =>
      obtain ⟨htrails, hb⟩ := Option.ite_none_right_eq_some.mp h
      obtain rfl := Option.some.inj hb
      split
      case isTrue hopens =>
        exact .first hmode (trails_iff.mp htrails) (mem_listOpeners_iff.mp hopens)
      case isFalse hother =>
        exact .next hmode (trails_iff.mp htrails) (mt mem_listOpeners_iff.mpr hother)
    case h_4 => cases h
  · intro h
    cases h with
    | utterance hmode htrails => simp only [bullet?, hmode, trails_iff.mpr htrails, if_true]
    | child hmode hequals hname hl hdeclared =>
      have hdefines := definesMl_iff.mpr ⟨_, hname, _, hl, hdeclared⟩
      simp only [bullet?, hmode, hequals, hdefines, Bool.and_true, if_true]
    | first hmode htrails hopens =>
      simp only [bullet?, hmode, trails_iff.mpr htrails, mem_listOpeners_iff.mpr hopens, if_true]
    | next hmode htrails hother =>
      simp only [bullet?, hmode, trails_iff.mpr htrails, mt mem_listOpeners_iff.mp hother, if_true,
        Bool.false_eq_true, if_false]

theorem mem_bullets {d : Document} {n : Nat} {b : Text} (h : bullet? d n = some b) :
    b ∈ bullets := by
  cases bullet?_eq_some_iff.mp h <;> decide

/-- An empty bullet is not followed by another one. -/
theorem bullet?_of_lone {d : Document} {n : Nat}
    (h : (lineAbove d.text n).trim = loneBullet) : bullet? d n = none := by
  have hgoes : goesOn (lineAbove d.text n) = false := by
    simp [goesOn, h]
  have hopens : (lineAbove d.text n).trim.endsWith '=' = false := by
    rw [h]
    decide
  simp only [bullet?, hgoes, hopens]
  split <;> rfl

end Continuation

open Continuation

theorem continueBlock_of_ne {d : Document} {p : Position} {typed : Text} (h : typed ≠ trigger) :
    continueBlock d p typed = [] :=
  if_neg h

theorem continueBlock_of_lone {d : Document} {p : Position}
    (h : (lineAbove d.text p.line).trim = loneBullet) :
    continueBlock d p trigger
      = [.deletion ⟨⟨p.line - 1, 0⟩, ⟨p.line, d.text.lineWidth p.line⟩⟩] := by
  rw [continueBlock, if_pos rfl, bullet?_of_lone h, abandoned?, if_pos h]
  rfl

theorem continueBlock_of_not_lone {d : Document} {p : Position}
    (h : (lineAbove d.text p.line).trim ≠ loneBullet) :
    continueBlock d p trigger = ((bullet? d p.line).map (.insertion ⟨p.line, 0⟩)).toList := by
  rw [continueBlock, if_pos rfl, abandoned?, if_neg h]
  exact List.append_nil _

namespace Continuation

/-! ## The text after the edit -/

/-- An edit puts a bullet in front of line `n`.  No other line changes, and the line stays in its
block. -/
structure Inserts (t : Text) (n : Nat) (e : TextEdit) : Prop where
  range : e.range = .point ⟨n, 0⟩
  bullet : e.newText ∈ bullets
  applied : ∃ l u, t.line? n = some l ∧ e.replaced? t = some u ∧
    u.lines = t.lines.set n (e.newText ++ l) ∧ Mode.classify u (n + 1) = Mode.classify t n

/-- An edit makes an empty line of line `n` and the line above it. -/
structure Deletes (t : Text) (n : Nat) (e : TextEdit) : Prop where
  range : e.range = ⟨⟨n - 1, 0⟩, ⟨n, t.lineWidth n⟩⟩
  nothing : e.newText = []
  applied : ∃ u, e.replaced? t = some u ∧
    u.lines = t.lines.take (n - 1) ++ [[]] ++ t.lines.drop (n + 1)

theorem inserts_bullet {t b : Text} {n : Nat} (hn : n < t.lineCount) (hb : b ∈ bullets) :
    Inserts t n (.insertion ⟨n, 0⟩ b) := by
  obtain ⟨-, hfeed, hreturn, -⟩ := bullets_spelled b hb
  obtain ⟨l, hl⟩ := Text.exists_line hn
  obtain ⟨u, hu, hlines⟩ := TextEdit.lines_insertion hl hfeed hreturn
  refine ⟨rfl, hb, l, u, hl, hu, hlines, ?_⟩
  obtain ⟨above, below, haround, hlength⟩ := Text.exists_lines_around hl
  have hafter : u.lines.take (n + 1) = t.lines.take n ++ [b ++ l] := by
    rw [hlines, haround, List.take_left' hlength, List.set_append_right _ _ (by simp [hlength]),
      hlength, Nat.sub_self, List.set_cons_zero, List.append_cons,
      List.take_left' (by simp [hlength])]
  rw [Mode.classify, hafter, Mode.afterLines_append, Mode.afterLines_cons, Mode.afterLines_nil,
    ← Mode.classify]
  exact advance_of_bullet hb (Text.not_mem_of_mem_lines (List.mem_of_getElem? hl)) _

theorem deletes_abandoned {t : Text} {n : Nat} (hn : n < t.lineCount)
    (hlone : (lineAbove t n).trim = loneBullet) :
    Deletes t n (.deletion ⟨⟨n - 1, 0⟩, ⟨n, t.lineWidth n⟩⟩) := by
  obtain ⟨hpos, -⟩ := lone_iff.mp hlone
  obtain ⟨m, rfl⟩ := Nat.exists_eq_add_of_le' hpos
  obtain ⟨u, hu, hlines⟩ := TextEdit.lines_deletion hn
  exact ⟨rfl, rfl, u, hu, hlines⟩

/-! ## Stacks of empty bullets -/

/-- The number of empty bullets directly above line `n`. -/
def loneAbove (t : Text) (n : Nat) : Nat :=
  ((t.lines.take n).reverse.takeWhile fun l => l.trim = loneBullet).length

/-- The document and the caret after an empty bullet is removed; none if there is none to remove,
or if the edit cannot be applied.  The caret lands where the removed range started. -/
def collapse? (d : Document) (p : Position) : Option (Document × Position) := do
  let e ← (continueBlock d p trigger).find? fun e => e.newText = []
  let text ← e.replaced? d.text
  return (d.replace text (d.version + 1), e.range.start)

/-- The document and the caret after `k` removals, each at the caret that the one before it
left. -/
def collapses : Nat → Document → Position → Option (Document × Position)
  | 0, d, p => some (d, p)
  | k + 1, d, p => do
    let (next, q) ← collapse? d p
    collapses k next q

theorem loneAbove_succ {t l : Text} {n : Nat} (hl : t.line? n = some l) :
    loneAbove t (n + 1) = if l.trim = loneBullet then loneAbove t n + 1 else 0 := by
  rw [Text.line?] at hl
  rw [loneAbove, List.take_add_one, hl, Option.toList_some, List.reverse_append,
    List.reverse_singleton, List.singleton_append, List.takeWhile_cons]
  by_cases hlone : l.trim = loneBullet
  · simp [hlone, loneAbove]
  · simp [hlone]

/-- An empty bullet is removed, and nothing changes above it. -/
theorem collapse?_of_lone {d : Document} {n : Nat} (hn : n + 1 < d.text.lineCount)
    (hlone : (lineAbove d.text (n + 1)).trim = loneBullet) (c : Nat) :
    ∃ next, collapse? d ⟨n + 1, c⟩ = some (next, ⟨n, 0⟩) ∧
      n < next.text.lineCount ∧ next.text.lines.take n = d.text.lines.take n := by
  obtain ⟨u, hu, hlines⟩ := (deletes_abandoned hn hlone).applied
  rw [Nat.add_sub_cancel] at hu hlines
  rw [List.append_assoc] at hlines
  have hfound : (continueBlock d ⟨n + 1, c⟩ trigger).find? (fun e => e.newText = [])
      = some (.deletion ⟨⟨n, 0⟩, ⟨n + 1, d.text.lineWidth (n + 1)⟩⟩) := by
    rw [continueBlock_of_lone hlone]
    rfl
  have hlength : (d.text.lines.take n).length = n :=
    List.length_take_of_le (Nat.le_of_lt (Nat.lt_of_succ_lt hn))
  refine ⟨d.replace u (d.version + 1), ?_, ?_, ?_⟩
  · rw [collapse?, hfound, Option.bind_eq_bind, Option.bind_some, hu]
    rfl
  · have hcount : (d.replace u (d.version + 1)).text.lineCount
        = (d.text.lines.take n ++ ([[]] ++ d.text.lines.drop (n + 1 + 1))).length :=
      congrArg List.length hlines
    rw [hcount, List.length_append, hlength, List.length_append, List.length_singleton]
    omega
  · exact (congrArg (List.take n) hlines).trans (List.take_left' hlength)

theorem newText_ne_of_not_lone {d : Document} {p : Position}
    (h : (lineAbove d.text p.line).trim ≠ loneBullet) :
    ∀ e ∈ continueBlock d p trigger, e.newText ≠ [] := by
  intro e he
  rw [continueBlock_of_not_lone h, Option.mem_toList, Option.map_eq_some_iff] at he
  obtain ⟨b, hb, rfl⟩ := he
  exact (bullets_spelled b (mem_bullets hb)).1

/-- As many empty bullets are removed as stand above the caret, and then no more. -/
theorem collapses_loneAbove (d : Document) (p : Position) (hn : p.line < d.text.lineCount) :
    ∃ last q, collapses (loneAbove d.text p.line) d p = some (last, q) ∧
      ∀ e ∈ continueBlock last q trigger, e.newText ≠ [] := by
  obtain ⟨n, c⟩ := p
  dsimp only at hn ⊢
  -- from one line to the next above it
  induction n generalizing d c with
  | zero =>
    refine ⟨d, _, rfl, newText_ne_of_not_lone ?_⟩
    simp [lineAbove, loneBullet]
  | succ n ih =>
    obtain ⟨l, hl⟩ := Text.exists_line (Nat.lt_of_succ_lt hn)
    have habove : lineAbove d.text (n + 1) = l := by
      rw [lineAbove, hl, Option.getD_some]
    rw [loneAbove_succ hl]
    split
    · next hlone =>
      have hlone' : (lineAbove d.text (n + 1)).trim = loneBullet := by
        rw [habove, hlone]
      obtain ⟨next, hnext, hlt, hkept⟩ := collapse?_of_lone hn hlone' c
      -- the empty bullets further up are the same
      have hsame : loneAbove next.text n = loneAbove d.text n := by
        rw [loneAbove, hkept, loneAbove]
      obtain ⟨last, q, hlast, hnone⟩ := ih next 0 hlt
      refine ⟨last, q, ?_, hnone⟩
      rw [collapses, hnext, ← hsame]
      exact hlast
    · next hother => exact ⟨d, _, rfl, newText_ne_of_not_lone (habove ▸ hother)⟩

end Continuation

theorem length_continueBlock_le (d : Document) (p : Position) (typed : Text) :
    (continueBlock d p typed).length ≤ 1 := by
  by_cases htyped : typed = trigger
  · subst htyped
    by_cases hlone : (lineAbove d.text p.line).trim = loneBullet
    · rw [continueBlock_of_lone hlone, List.length_singleton]
    · rw [continueBlock_of_not_lone hlone]
      cases bullet? d p.line <;> simp
  · rw [continueBlock_of_ne htyped, List.length_nil]
    exact Nat.zero_le 1

/-- What is removed starts on the line above, so there is one. -/
theorem start_of_deletion {d : Document} {p : Position} {typed : Text} {e : TextEdit}
    (he : e ∈ continueBlock d p typed) (hnothing : e.newText = []) :
    e.range.start.line + 1 = p.line := by
  by_cases htyped : typed = trigger
  · subst htyped
    by_cases hlone : (lineAbove d.text p.line).trim = loneBullet
    · rw [continueBlock_of_lone hlone, List.mem_singleton] at he
      rw [he]
      exact Nat.sub_add_cancel (lone_iff.mp hlone).1
    · exact absurd hnothing (newText_ne_of_not_lone hlone e he)
  · rw [continueBlock_of_ne htyped] at he
    cases he

theorem inserts_or_deletes {d : Document} {p : Position} (hn : p.line < d.text.lineCount)
    {e : TextEdit} (he : e ∈ continueBlock d p trigger) :
    Inserts d.text p.line e ∨ Deletes d.text p.line e := by
  by_cases hlone : (lineAbove d.text p.line).trim = loneBullet
  · rw [continueBlock_of_lone hlone, List.mem_singleton] at he
    rw [he]
    exact .inr (deletes_abandoned hn hlone)
  · rw [continueBlock_of_not_lone hlone, Option.mem_toList, Option.map_eq_some_iff] at he
    obtain ⟨b, hb, rfl⟩ := he
    exact .inl (inserts_bullet hn (mem_bullets hb))

theorem exists_deletion_iff {d : Document} {p : Position} :
    (∃ e ∈ continueBlock d p trigger, e.newText = []) ↔
      1 ≤ p.line ∧ ∃ l, d.text.line? (p.line - 1) = some l ∧ l.trim = loneBullet := by
  rw [← lone_iff]
  constructor
  · rintro ⟨e, he, hnothing⟩
    by_contra hlone
    exact newText_ne_of_not_lone hlone e he hnothing
  · intro hlone
    rw [continueBlock_of_lone hlone]
    exact ⟨_, List.mem_singleton_self _, rfl⟩

/-- A bullet is inserted exactly where it belongs. -/
theorem insertion_mem_continueBlock_iff {d : Document} {p : Position} {b : Text} :
    .insertion ⟨p.line, 0⟩ b ∈ continueBlock d p trigger ↔ Belongs d p.line b := by
  rw [← bullet?_eq_some_iff]
  by_cases hlone : (lineAbove d.text p.line).trim = loneBullet
  · rw [continueBlock_of_lone hlone, bullet?_of_lone hlone, List.mem_singleton]
    refine ⟨fun h => ?_, fun h => by cases h⟩
    -- what is removed starts further up
    have hstart : p.line = p.line - 1 := congrArg (·.range.start.line) h
    have hpos := (lone_iff.mp hlone).1
    omega
  · rw [continueBlock_of_not_lone hlone, Option.mem_toList, Option.map_eq_some_iff]
    refine ⟨?_, fun h => ⟨b, h, rfl⟩⟩
    rintro ⟨c, hc, hinsertion⟩
    obtain rfl : c = b := congrArg TextEdit.newText hinsertion
    exact hc

/-- **What a new line does.**  Of any document, at any position and after anything typed, there is
at most one edit; none unless a new line was typed; and what is removed starts on the line above
the caret, so there is one.  A bullet is inserted exactly where it belongs.  On a line of the text,
an edit either inserts one of the bullets in front of that line, and the line stays in its block,
or deletes, exactly if the line above is an empty bullet, and leaves an empty line for the two.  If
the formatter runs again where each removed range started, it removes as many empty bullets as
stood one above the other, and then no more. -/
theorem continueBlock_effect (d : Document) (p : Position) (typed : Text) :
    (continueBlock d p typed).length ≤ 1 ∧
    (typed ≠ trigger → continueBlock d p typed = []) ∧
    (∀ e ∈ continueBlock d p typed, e.newText = [] → e.range.start.line + 1 = p.line) ∧
    (∀ b, .insertion ⟨p.line, 0⟩ b ∈ continueBlock d p trigger ↔ Belongs d p.line b) ∧
    (p.line < d.text.lineCount →
      (∀ e ∈ continueBlock d p trigger, Inserts d.text p.line e ∨ Deletes d.text p.line e) ∧
      ((∃ e ∈ continueBlock d p trigger, e.newText = []) ↔
        1 ≤ p.line ∧ ∃ l, d.text.line? (p.line - 1) = some l ∧ l.trim = loneBullet) ∧
      ∃ last q, collapses (loneAbove d.text p.line) d p = some (last, q) ∧
        ∀ e ∈ continueBlock last q trigger, e.newText ≠ []) := by
  refine ⟨length_continueBlock_le d p typed, continueBlock_of_ne, ?_, ?_, ?_⟩
  · intro e he
    exact start_of_deletion he
  · intro b
    exact insertion_mem_continueBlock_iff
  · intro hn
    refine ⟨?_, exists_deletion_iff, collapses_loneAbove d p hn⟩
    intro e he
    exact inserts_or_deletes hn he

/-- Two empty bullets under an intent are taken down.  In another document a child is begun below an
entity, in the middle of the text, and an utterance on its last line. -/
theorem continueBlock_effect_stacked :
    let d : Document := .ofText "# Greet\n- hi\n-\n - \n".toList 1
    let d' : Document := .ofText "@ ml trip =\n\n# Greet\n- hi\n".toList 1
    let child : TextEdit := .insertion ⟨1, 0⟩ "\t-@".toList
    let utterance : TextEdit := .insertion ⟨4, 0⟩ "- ".toList
    ((4 < d.text.lineCount ∧ loneAbove d.text 4 = 2) ∧
      ∃ last q, collapses 2 d ⟨4, 0⟩ = some (last, q) ∧
        ∀ e ∈ continueBlock last q trigger, e.newText ≠ []) ∧
      (1 < d'.text.lineCount ∧ child ∈ continueBlock d' ⟨1, 0⟩ trigger ∧
        Inserts d'.text 1 child) ∧
      4 < d'.text.lineCount ∧ utterance ∈ continueBlock d' ⟨4, 0⟩ trigger ∧
        Inserts d'.text 4 utterance := by
  intro d d' child utterance
  have hinserts {n : Nat} {b : Text} (hn : n < d'.text.lineCount) (hb : Belongs d' n b) :
      n < d'.text.lineCount ∧ .insertion ⟨n, 0⟩ b ∈ continueBlock d' ⟨n, 0⟩ trigger ∧
        Inserts d'.text n (.insertion ⟨n, 0⟩ b) := by
    obtain ⟨-, -, -, hbelongs, heffect⟩ := continueBlock_effect d' ⟨n, 0⟩ trigger
    have hmem := (hbelongs b).mpr hb
    refine ⟨hn, hmem, ((heffect hn).1 _ hmem).resolve_right fun hdeletes => ?_⟩
    have hnothing : b = [] := hdeletes.nothing
    subst hnothing
    cases hb
  have hchild : Belongs d' 1 "\t-@".toList := by
    have hname : Slot.mlName? (lineAbove d'.text 1) = some "trip".toList := by decide
    have hdeclared : Slot.mlDeclared? "@ ml trip =".toList = some "trip".toList := by decide
    exact .child (by decide) (by decide) hname (by decide) hdeclared
  have hutterance : Belongs d' 4 "- ".toList :=
    .utterance (by decide) ⟨by decide, by decide, by decide⟩
  have hn : 4 < d.text.lineCount := by decide
  have hlone : loneAbove d.text 4 = 2 := by decide
  refine ⟨⟨⟨hn, hlone⟩, ?_⟩, hinserts (by decide) hchild, hinserts (by decide) hutterance⟩
  exact hlone ▸ ((continueBlock_effect d ⟨4, 0⟩ trigger).2.2.2.2 hn).2.2

end LuServer
