/-
# Lines that leave no trace

A line that is inert, or that is rejected and is no definition, leaves the draft as it was.
So the text without it reads as the text with it: the same model, and the same rejections
except its own, with the lines after it counted one less.

* `Draft.read_of_fault`: a rejected line changes nothing, definitions apart.
* `Draft.after_without`, `Draft.rejections_without`: reading without such a line.
* `Draft.after_withoutLine`, `Draft.rejections_withoutLine`: the text without a line.
* `untraced_line_erased`: the result for whole texts.
-/
import LuServer.Counted
import LuServer.Proofs.Draft.Bullet
import LuServer.Proofs.Draft.Reading
import LuServer.Proofs.Grammar.Sign
import LuServer.Proofs.Text.Relined

namespace LuServer

namespace Draft

/-! ## Rejected bullets -/

/-- A rejected bullet changes nothing, whatever block it stands in. -/
theorem item_of_fault {d : Draft} {content : Text} {fault : Fault}
    (h : (d.item content).2 = some fault) : (d.item content).1 = d := by
  have htakes := takes_item d content
  generalize d.item content = result at h htakes
  cases htakes with
  | rejected _ => rfl
  | utterance => cases h
  | value => cases h
  | synonym => cases h
  | child => cases h
  | phrases => cases h

/-- A rejected line that does not start with `@` changes nothing. -/
theorem read_of_fault {d : Draft} {l : Text} {fault : Fault} (h : (d.read l).2 = some fault)
    (hsign : l.trim.head? ≠ some '@') : (d.read l).1 = d := by
  unfold read at h ⊢
  cases hform : LineForm.ofLine l with
  | inert => rfl
  | header name =>
    rw [hform] at h
    cases h
  | definition result => exact absurd (Line.of_definition hform).2.2.1 hsign
  | item content =>
    rw [hform] at h
    exact item_of_fault h
  | rejected fault => rfl

theorem read_of_inert {l : Text} (h : Line.Inert l) (d : Draft) : d.read l = (d, none) := by
  rw [read, Line.ofLine_of_inert h]
  rfl

/-! ## Reading without a line -/

/-- A rejection as it is told once line `n` is gone. -/
def renumber (n : Nat) (r : Nat × String) : Nat × String :=
  (if n < r.1 then r.1 - 1 else r.1, r.2)

/-- The rejections of the other lines, as they are told once line `n` is gone. -/
def othersThan (n : Nat) (rs : List (Nat × String)) : List (Nat × String) :=
  (rs.filter fun r => r.1 ≠ n).map (renumber n)

theorem othersThan_append (n : Nat) (rs ss : List (Nat × String)) :
    othersThan n (rs ++ ss) = othersThan n rs ++ othersThan n ss := by
  rw [othersThan, List.filter_append, List.map_append, othersThan, othersThan]

theorem othersThan_of_lt {n : Nat} {rs : List (Nat × String)} (h : ∀ r ∈ rs, r.1 < n) :
    othersThan n rs = rs := by
  have hkept : rs.filter (fun r => r.1 ≠ n) = rs := by
    rw [List.filter_eq_self]
    intro r hr
    have := h r hr
    exact decide_eq_true (by omega)
  rw [othersThan, hkept]
  refine (List.map_congr_left ?_).trans (List.map_id rs)
  intro r hr
  have := h r hr
  rw [renumber, if_neg (by omega)]
  rfl

theorem othersThan_of_eq {n : Nat} {rs : List (Nat × String)} (h : ∀ r ∈ rs, r.1 = n) :
    othersThan n rs = [] := by
  have hnone : rs.filter (fun r => r.1 ≠ n) = [] := by
    rw [List.filter_eq_nil_iff]
    intro r hr
    simp [h r hr]
  rw [othersThan, hnone, List.map_nil]

theorem othersThan_map_succ {n : Nat} {rs : List (Nat × String)} (h : ∀ r ∈ rs, n ≤ r.1) :
    othersThan n (rs.map fun r => (r.1 + 1, r.2)) = rs := by
  have hkept : (rs.map fun r => (r.1 + 1, r.2)).filter (fun r => r.1 ≠ n)
      = rs.map fun r => (r.1 + 1, r.2) := by
    rw [List.filter_eq_self]
    intro r hr
    obtain ⟨s, hs, rfl⟩ := List.mem_map.mp hr
    have := h s hs
    exact decide_eq_true (by dsimp only; omega)
  rw [othersThan, hkept, List.map_map]
  refine (List.map_congr_left ?_).trans (List.map_id rs)
  intro r hr
  have := h r hr
  rw [Function.comp_apply, renumber, if_pos (by dsimp only; omega)]
  rfl

/-- A line that leaves no trace can be left out. -/
theorem after_without {d : Draft} {before : List Text} {l : Text}
    (h : ((d.after before).read l).1 = d.after before) (rest : List Text) :
    d.after (before ++ rest) = d.after (before ++ l :: rest) := by
  rw [after_append, after_append, after_cons, h]

/-- Without such a line the others are rejected as before. -/
theorem rejections_without {d : Draft} {before : List Text} {l : Text}
    (h : ((d.after before).read l).1 = d.after before) (k : Nat) (rest : List Text) :
    d.rejections k (before ++ rest)
      = othersThan (k + before.length) (d.rejections k (before ++ l :: rest)) := by
  rw [rejections_append, rejections_append, rejections_cons, h,
    rejections_add _ (k + before.length), othersThan_append,
    othersThan_append, othersThan_of_lt, othersThan_of_eq, othersThan_map_succ, List.nil_append]
  · intro r hr
    exact (line_of_mem_rejections hr).1
  · intro r hr
    exact line_of_mem_rejection hr
  · intro r hr
    exact (line_of_mem_rejections hr).2

/-! ## Texts without a line -/

/-- A text without line `n` is read as its other lines are. -/
theorem after_withoutLine (d : Draft) (text : Text) (n : Nat) :
    d.after (text.withoutLine n).lines = d.after (text.lines.eraseIdx n) := by
  have htrim := Text.trim_lines_withoutLine text n
  split at htrim
  · next hnil =>
    -- a blank line is left
    have hblank : (text.withoutLine n).lines.map Text.trim = [([] : Text)].map Text.trim := htrim
    rw [hnil, after_congr hblank, after_cons, read_of_inert (.inl rfl)]
  · exact after_congr htrim d

theorem rejections_withoutLine (d : Draft) (k : Nat) (text : Text) (n : Nat) :
    d.rejections k (text.withoutLine n).lines = d.rejections k (text.lines.eraseIdx n) := by
  have htrim := Text.trim_lines_withoutLine text n
  split at htrim
  · next hnil =>
    have hblank : (text.withoutLine n).lines.map Text.trim = [([] : Text)].map Text.trim := htrim
    rw [hnil, rejections_congr hblank, rejections_cons, read_of_inert (.inl rfl)]
    rfl
  · exact rejections_congr htrim d k

/-- A line told to be rejected has a fault where it stands. -/
theorem fault_of_mem_rejections {d : Draft} {before : List Text} {l : Text} {rest : List Text}
    {k : Nat} {message : String}
    (h : (k + before.length, message) ∈ d.rejections k (before ++ l :: rest)) :
    ∃ fault, ((d.after before).read l).2 = some fault := by
  rw [rejections_append, rejections_cons, List.mem_append, List.mem_append] at h
  rcases h with h | h | h
  · have hline := (line_of_mem_rejections h).2
    dsimp only at hline
    omega
  · rw [rejection, Option.mem_toList, Option.map_eq_some_iff] at h
    obtain ⟨fault, hfault, _⟩ := h
    exact ⟨fault, hfault⟩
  · have hline := (line_of_mem_rejections h).1
    dsimp only at hline
    omega

end Draft

theorem value_extract? (text culture : Text) :
    (extract? text culture).value = (parse text culture).toOption := by
  rw [extract?, Counted.value_bind, Counted.parse]
  dsimp only
  cases parse text culture <;> rfl

/-- The model found around a line is that of the text, or else that of the text without the
line. -/
theorem value_extractAround? (text : Text) (n : Nat) (culture : Text) :
    (extractAround? text n culture).value
      = (parse text culture).toOption.or (parse (text.withoutLine n) culture).toOption := by
  rw [extractAround?, Counted.value_bind, value_extract?]
  cases parse text culture with
  | ok m => rfl
  | error errors => exact value_extract? (text.withoutLine n) culture

theorem toOption_parse_of_rejections {text culture : Text} (h : rejections text culture ≠ []) :
    (parse text culture).toOption = none := by
  cases hparse : parse text culture with
  | ok m => exact absurd (parse_eq_ok_iff.mp hparse).1 h
  | error errors => rfl

open Draft in
/-- **Lines that leave no trace.**  Let line `n` of a text be inert, or rejected without
starting with `@`.  The text without it is rejected as the text is, except for that line,
with later lines counted one less, and its lines lead to the same draft and so to the same
model.  A text that can be read is read as the same model without an inert line, and if the
line is the only rejected one, the model found around it is that of the other lines. -/
theorem untraced_line_erased (text culture : Text) (n : Nat) (l : Text)
    (hl : text.line? n = some l)
    (h : Line.Inert l ∨
      (∃ message, (n + 1, message) ∈ rejections text culture) ∧ l.trim.head? ≠ some '@') :
    rejections (text.withoutLine n) culture = othersThan (n + 1) (rejections text culture) ∧
    (start culture).after (text.withoutLine n).lines = (start culture).after text.lines ∧
    (start culture).after (text.lines.eraseIdx n) = (start culture).after text.lines ∧
    (Line.Inert l → ∀ m, parse text culture = .ok m →
      parse (text.withoutLine n) culture = .ok m) ∧
    ((rejections text culture).map Prod.fst = [n + 1] →
      (extractAround? text n culture).value
        = some ((start culture).after (text.lines.eraseIdx n)).finish) := by
  obtain ⟨before, rest, hlines, hn⟩ := Text.exists_lines_around hl
  have herase : text.lines.eraseIdx n = before ++ rest := by
    rw [hlines, ← hn, List.eraseIdx_append_of_length_le (Nat.le_refl _), Nat.sub_self,
      List.eraseIdx_cons_zero]
  have huntraced : (((start culture).after before).read l).1 = (start culture).after before := by
    rcases h with hinert | ⟨⟨message, hmem⟩, hsign⟩
    · rw [read_of_inert hinert]
    · rw [rejections_eq, hlines, ← hn, Nat.add_comm] at hmem
      obtain ⟨fault, hfault⟩ := fault_of_mem_rejections hmem
      exact read_of_fault hfault hsign
  have hafter :
      (start culture).after (text.lines.eraseIdx n) = (start culture).after text.lines := by
    rw [herase, hlines]
    exact after_without huntraced rest
  have hrejections : rejections (text.withoutLine n) culture
      = othersThan (n + 1) (rejections text culture) := by
    rw [rejections_eq, rejections_eq, rejections_withoutLine, herase, hlines, ← hn, Nat.add_comm]
    exact rejections_without huntraced 1 rest
  have hwithout := after_withoutLine (start culture) text n
  refine ⟨hrejections, hwithout.trans hafter, hafter, ?_, ?_⟩
  · intro _ m hm
    rw [parse_eq_ok_iff] at hm ⊢
    rw [hrejections, hm.1, hwithout, hafter]
    exact ⟨rfl, hm.2⟩
  · intro honly
    have hne : rejections text culture ≠ [] := by
      intro hnil
      simp [hnil] at honly
    have hothers : othersThan (n + 1) (rejections text culture) = [] := by
      refine othersThan_of_eq ?_
      intro r hr
      have hfst : r.1 ∈ (rejections text culture).map Prod.fst := List.mem_map_of_mem hr
      rw [honly] at hfst
      exact List.mem_singleton.mp hfst
    have hparse : parse (text.withoutLine n) culture
        = .ok ((start culture).after (text.lines.eraseIdx n)).finish :=
      parse_eq_ok_iff.mpr ⟨hrejections.trans hothers, by rw [hwithout]⟩
    rw [value_extractAround?, toOption_parse_of_rejections hne, hparse]
    rfl

open Draft in
/-- An utterance with an open brace is left out, the one after it moves up a line, and the
model around it has the utterances of the other lines. -/
theorem untraced_line_erased_unclosed :
    let text : Text := "# Greet\n- \x7ba\n- hi\n+ \x7d".toList
    let around : Text := "# Greet\n- \x7ba\n- hi".toList
    let unclosed : String := (Fault.unclosedBrace "\x7ba".toList).message
    let unopened : String := (Fault.unopenedBrace "\x7d".toList).message
    rejections text [] = [(2, unclosed), (4, unopened)] ∧
      rejections (text.withoutLine 1) [] = [(3, unopened)] ∧
      rejections around [] = [(2, unclosed)] ∧
      (extractAround? around 1 []).value
        = some { intents := [{ name := "Greet".toList, utterances := ["hi".toList] }] } := by
  intro text around unclosed unopened
  have htext : rejections text [] = [(2, unclosed), (4, unopened)] := rfl
  have haround : rejections around [] = [(2, unclosed)] := rfl
  refine ⟨htext, ?_, haround, ?_⟩
  · refine (untraced_line_erased text [] 1 "- \x7ba".toList (by decide) (.inr ⟨?_, by decide⟩)).1
    exact ⟨unclosed, by rw [htext]; exact List.mem_cons_self⟩
  · refine (untraced_line_erased around [] 1 "- \x7ba".toList (by decide)
      (.inr ⟨?_, by decide⟩)).2.2.2.2 (by rw [haround]; rfl)
    exact ⟨unclosed, by rw [haround]; exact List.mem_cons_self⟩

end LuServer
