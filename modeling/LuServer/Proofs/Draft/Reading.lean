/-
# Reading line after line

The draft and the rejections that a list of lines leads to, and what they depend on: the
lines in their order, each without the blanks at its ends.  Numbers of lines only shift.

* `Draft.after`: the draft after some lines.
* `Draft.rejections`: the rejected lines among some lines, by number and message.
* `rejections`: those of a text.
* `Draft.rejections_append`, `Draft.rejections_add`: lines in two parts, and lines that are
  counted from further on.
* `parse_eq_ok_iff`: when a text can be read, and what it is read as.
-/
import LuServer.Draft

namespace LuServer

/-- A rejected line as it is told: its number, counted from 1, and the message. -/
def SyntaxError.told (e : SyntaxError) : Nat × String :=
  (e.line, e.fault.message)

/-- The rejected lines of a text, by number and message. -/
def rejections (text culture : Text) : List (Nat × String) :=
  match parse text culture with
  | .ok _ => []
  | .error errors => errors.map SyntaxError.told

namespace Draft

/-- The draft after some lines. -/
def after (d : Draft) (ls : List Text) : Draft :=
  ls.foldl (fun d l => (d.read l).1) d

@[simp] theorem after_nil (d : Draft) : d.after [] = d := rfl

@[simp] theorem after_cons (d : Draft) (l : Text) (ls : List Text) :
    d.after (l :: ls) = (d.read l).1.after ls := rfl

@[simp] theorem after_append (d : Draft) (ls ms : List Text) :
    d.after (ls ++ ms) = (d.after ls).after ms :=
  List.foldl_append

theorem readAll_fst (d : Draft) (n : Nat) (ls : List Text) : (d.readAll n ls).1 = d.after ls := by
  induction ls generalizing d n with
  | nil => rfl
  | cons l ls ih => rw [readAll, after_cons, ← ih (d.read l).1 (n + 1)]

/-! ## Rejected lines -/

/-- The rejected lines among `ls`, of which the first has number `n`. -/
def rejections (d : Draft) (n : Nat) (ls : List Text) : List (Nat × String) :=
  (d.readAll n ls).2.map SyntaxError.told

/-- The rejection of line `n` for a fault, if there is one. -/
def rejection (n : Nat) (fault : Option Fault) : List (Nat × String) :=
  (fault.map fun f => (n, f.message)).toList

theorem rejection_eq_nil {n : Nat} {fault : Option Fault} :
    rejection n fault = [] ↔ fault = none := by
  cases fault <;> simp [rejection]

@[simp] theorem rejections_nil (d : Draft) (n : Nat) : d.rejections n [] = [] := rfl

@[simp] theorem rejections_cons (d : Draft) (n : Nat) (l : Text) (ls : List Text) :
    d.rejections n (l :: ls)
      = rejection n (d.read l).2 ++ (d.read l).1.rejections (n + 1) ls := by
  rw [rejections, readAll, List.map_append, rejections]
  cases (d.read l).2 <;> rfl

theorem rejections_append (d : Draft) (n : Nat) (ls ms : List Text) :
    d.rejections n (ls ++ ms)
      = d.rejections n ls ++ (d.after ls).rejections (n + ls.length) ms := by
  induction ls generalizing d n with
  | nil => rfl
  | cons l ls ih =>
    rw [List.cons_append, rejections_cons, ih, rejections_cons, after_cons, List.append_assoc,
      List.length_cons, show n + 1 + ls.length = n + (ls.length + 1) by omega]

/-- Lines that are counted from further on are rejected further on. -/
theorem rejections_add (d : Draft) (n k : Nat) (ls : List Text) :
    d.rejections (n + k) ls = (d.rejections n ls).map fun r => (r.1 + k, r.2) := by
  induction ls generalizing d n with
  | nil => rfl
  | cons l ls ih =>
    rw [rejections_cons, rejections_cons, List.map_append, ← ih, Nat.add_right_comm]
    cases (d.read l).2 <;> rfl

theorem line_of_mem_rejection {n : Nat} {fault : Option Fault} {r : Nat × String}
    (h : r ∈ rejection n fault) : r.1 = n := by
  rw [rejection, Option.mem_toList, Option.map_eq_some_iff] at h
  obtain ⟨_, _, rfl⟩ := h
  rfl

/-- A rejection tells the number of one of the lines. -/
theorem line_of_mem_rejections {d : Draft} {n : Nat} {ls : List Text} {r : Nat × String}
    (h : r ∈ d.rejections n ls) : n ≤ r.1 ∧ r.1 < n + ls.length := by
  induction ls generalizing d n with
  | nil => simp at h
  | cons l ls ih =>
    rw [rejections_cons, List.mem_append] at h
    rw [List.length_cons]
    rcases h with h | h
    · have hline := line_of_mem_rejection h
      omega
    · have hline := ih h
      omega

/-! ## What a line depends on -/

/-- The blanks at the ends of a line do not count. -/
theorem read_congr {l m : Text} (h : l.trim = m.trim) (d : Draft) : d.read l = d.read m := by
  rw [read, read, LineForm.ofLine, LineForm.ofLine, h]

theorem after_congr {ls ms : List Text} (h : ls.map Text.trim = ms.map Text.trim) (d : Draft) :
    d.after ls = d.after ms := by
  induction ls generalizing d ms with
  | nil =>
    obtain rfl : ms = [] := List.map_eq_nil_iff.mp h.symm
    rfl
  | cons l ls ih =>
    cases ms with
    | nil => cases h
    | cons m ms =>
      obtain ⟨hl, hls⟩ := List.cons.inj h
      rw [after_cons, after_cons, read_congr hl, ih hls]

theorem rejections_congr {ls ms : List Text} (h : ls.map Text.trim = ms.map Text.trim)
    (d : Draft) (n : Nat) : d.rejections n ls = d.rejections n ms := by
  induction ls generalizing d n ms with
  | nil =>
    obtain rfl : ms = [] := List.map_eq_nil_iff.mp h.symm
    rfl
  | cons l ls ih =>
    cases ms with
    | nil => cases h
    | cons m ms =>
      obtain ⟨hl, hls⟩ := List.cons.inj h
      rw [rejections_cons, rejections_cons, read_congr hl, ih hls]

end Draft

/-! ## Texts -/

theorem parse_eq (text culture : Text) :
    parse text culture
      = if (Draft.start culture).rejections 1 text.lines = []
        then .ok ((Draft.start culture).after text.lines).finish
        else .error ((Draft.start culture).readAll 1 text.lines).2 := by
  rw [parse, ← Draft.readAll_fst _ 1]
  simp only [Draft.rejections, List.map_eq_nil_iff]

theorem rejections_eq (text culture : Text) :
    rejections text culture = (Draft.start culture).rejections 1 text.lines := by
  rw [rejections, parse_eq]
  split
  · next hparse =>
    split at hparse
    · next hnil => exact hnil.symm
    · cases hparse
  · next hparse =>
    split at hparse
    · cases hparse
    · obtain rfl := Except.error.inj hparse
      rfl

/-- A text can be read exactly if no line is rejected, and it is read as what its lines
lead to. -/
theorem parse_eq_ok_iff {text culture : Text} {m : Model} :
    parse text culture = .ok m ↔
      rejections text culture = [] ∧ ((Draft.start culture).after text.lines).finish = m := by
  rw [parse_eq, rejections_eq]
  split
  · next hnil => simp [hnil]
  · next hne => simp [hne]

end LuServer
