/-
# What a new line takes out of a text

A new line below an empty bullet takes the bullet out, together with the line that the caret is
on.  Blanks apart, that is the hyphen and whatever the line of the caret holds: nothing, if the
new line was typed at the end of the bullet, but the rest of the bullet, if it was typed before
that.  A new line anywhere else takes nothing out.

* `Text.ink`: the characters of a text that can be seen.
* `Continuation.removes_abandoned`: what is taken out with an empty bullet.
* `new_line_removes`: what a new line takes out.
-/
import LuServer.Proofs.Caret.Continued

namespace LuServer

namespace Text

/-! ## Characters that can be seen -/

/-- The characters of a text that are not blank. -/
def ink (t : Text) : Text :=
  t.filter (!isBlank ·)

@[simp] theorem ink_append (s t : Text) : ink (s ++ t) = ink s ++ ink t :=
  List.filter_append s t

theorem ink_cons_blank {c : Char} (hc : isBlank c = true) (t : Text) : ink (c :: t) = ink t := by
  rw [ink, List.filter_cons, hc]
  rfl

theorem ink_eq_nil_iff {t : Text} : ink t = [] ↔ ∀ c ∈ t, isBlank c = true := by
  simp [ink, List.filter_eq_nil_iff]

/-- The blanks at the ends of a text cannot be seen. -/
theorem ink_trim (t : Text) : ink (trim t) = ink t := by
  obtain ⟨as, bs, ht, has, hbs⟩ := exists_around_trim t
  calc ink (trim t) = ink as ++ (ink (trim t) ++ ink bs) := by
        rw [ink_eq_nil_iff.mpr has, ink_eq_nil_iff.mpr hbs, List.nil_append, List.append_nil]
    _ = ink t := by rw [← ink_append, ← ink_append, ← ht]

end Text

namespace Continuation

/-- With an empty bullet its line, the line break and the line of the caret are taken out. -/
theorem removes_abandoned {t l : Text} {n : Nat} (hl : t.line? n = some l)
    (hlone : (lineAbove t n).trim = loneBullet) :
    ∃ old, TextEdit.Removes (.deletion ⟨⟨n - 1, 0⟩, ⟨n, t.lineWidth n⟩⟩) t old ∧
      old.ink = '-' :: l.ink := by
  obtain ⟨hpos, above, habove, htrim⟩ := lone_iff.mp hlone
  obtain ⟨m, rfl⟩ := Nat.exists_eq_add_of_le' hpos
  rw [Nat.add_sub_cancel] at habove ⊢
  have hcount : m + 1 < t.lineCount := by
    rw [← Nat.not_le, ← Text.line?_eq_none_iff, hl]
    exact Option.some_ne_none l
  -- the range runs from the start of the first of two lines to the end of the second
  obtain ⟨before, first, second, after, hraw, hm⟩ := Text.exists_two_raw hcount
  obtain ⟨ending, -, ht⟩ := Text.eq_around_two hraw
  refine ⟨_, TextEdit.removes_append ht (Text.byteOffset?_start hraw hm)
    (Text.byteOffset?_stop_second hraw hm), ?_⟩
  have hfirst : first.ink = ['-'] := by
    have hline : Text.dropReturn first = above := by
      rw [Text.line?_of_raw hraw hm] at habove
      exact Option.some.inj habove
    rw [← Text.ink_trim, ← Text.trim_dropReturn, hline, htrim]
    rfl
  have hsecond : Text.dropReturn second = l := by
    have hraw' : t.rawLines = (before ++ [first]) ++ second :: after := by
      rw [hraw, List.append_assoc, List.singleton_append]
    rw [Text.line?_of_raw hraw' (by simp [hm])] at hl
    exact Option.some.inj hl
  rw [Text.ink_append, Text.ink_cons_blank (by decide), hfirst, hsecond, List.singleton_append]

/-- With a bullet that is put in front of a line nothing is taken out. -/
theorem removes_nothing {t b : Text} {n : Nat} (hn : n < t.lineCount) :
    TextEdit.Removes (.insertion ⟨n, 0⟩ b) t [] := by
  obtain ⟨before, raw, after, hraw, hlength⟩ := Text.exists_raw hn
  have ht : t = Text.closedLines before ++ [] ++ (raw ++ Text.openedLines after) := by
    rw [List.append_nil, ← List.append_assoc]
    exact LineOffsets.eq_around_raw hraw
  exact TextEdit.removes_append ht (Text.byteOffset?_start hraw hlength)
    (Text.byteOffset?_start hraw hlength)

end Continuation

open Continuation

/-- **What a new line takes out.**  With the caret on line `l` of a text, an edit takes out nothing,
or what can be seen of it is the hyphen of the empty bullet above and what can be seen of `l`.  So
nothing but a hyphen is lost exactly if the edit inserts or `l` is blank. -/
theorem new_line_removes (d : Document) (p : Position) (l : Text)
    (hl : d.text.line? p.line = some l) (e : TextEdit) (he : e ∈ continueBlock d p trigger) :
    ∃ old, e.Removes d.text old ∧
      (old = [] ∨ (lineAbove d.text p.line).trim = loneBullet ∧ old.ink = '-' :: l.ink) ∧
      (old.ink <+: ['-'] ↔ e.newText ≠ [] ∨ ∀ c ∈ l, Text.isBlank c = true) := by
  by_cases hlone : (lineAbove d.text p.line).trim = loneBullet
  · rw [continueBlock_of_lone hlone, List.mem_singleton] at he
    obtain ⟨old, hremoves, hink⟩ := removes_abandoned hl hlone
    refine ⟨old, he ▸ hremoves, .inr ⟨hlone, hink⟩, ?_⟩
    have hnothing : e.newText = [] := congrArg TextEdit.newText he
    rw [hink, List.cons_prefix_cons, List.prefix_nil, Text.ink_eq_nil_iff]
    simp [hnothing]
  · have hnew := newText_ne_of_not_lone hlone e he
    rw [continueBlock_of_not_lone hlone, Option.mem_toList, Option.map_eq_some_iff] at he
    obtain ⟨b, -, rfl⟩ := he
    have hn : p.line < d.text.lineCount := by
      rw [← Nat.not_le, ← Text.line?_eq_none_iff, hl]
      exact Option.some_ne_none l
    refine ⟨[], removes_nothing hn, .inl rfl, ?_⟩
    simp [Text.ink, hnew]

/-- Below an empty bullet with blanks around it, on a line with blanks only. -/
theorem new_line_removes_blanks :
    let d : Document := .ofText "# Greet\n- hi\n \t- \n  \n# Bye".toList 1
    let e : TextEdit := .deletion ⟨⟨2, 0⟩, ⟨3, 2⟩⟩
    (d.text.line? 3 = some [' ', ' '] ∧ e ∈ continueBlock d ⟨3, 1⟩ trigger) ∧
      ∃ old, e.Removes d.text old ∧ old.ink <+: ['-'] := by
  intro d e
  have hl : d.text.line? 3 = some [' ', ' '] := by decide
  have he : e ∈ continueBlock d ⟨3, 1⟩ trigger := by decide
  obtain ⟨old, hremoves, -, hspared⟩ := new_line_removes d ⟨3, 1⟩ [' ', ' '] hl e he
  exact ⟨⟨hl, he⟩, old, hremoves, hspared.mpr (.inr (List.all_eq_true.mp (by decide)))⟩

/-- A bullet is cut in two right after its hyphen, and what it said is gone. -/
theorem new_line_removes_words :
    let d : Document := .ofText "# Greet\n-\nhello".toList 1
    ∃ e ∈ continueBlock d ⟨2, 0⟩ trigger,
      e.removed? d.text = some "-\nhello".toList ∧
        e.replaced? d.text = some "# Greet\n".toList ∧
        ∃ c ∈ "-\nhello".toList, Text.isBlank c = false ∧ c ≠ '-' := by
  refine ⟨.deletion ⟨⟨1, 0⟩, ⟨2, 5⟩⟩, ?_, ?_, ?_, 'h', ?_⟩ <;> decide

end LuServer
