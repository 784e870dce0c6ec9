/-
# The block that a line opens

Which block bullets belong to is decided by the last line above them that starts with `#` or `@`.
Such a line ends the block before it and may open one of its own: a header that of an intent, a
definition that of an entity, by its kind or by the kind that its name has.  The lines below it
leave the block as it is, except that a bullet of a list may be a new value.

* `Block.mode`, `EntityKind.mode`, `LineForm.mode`: the mode of a block, of the block of an entity,
  and of the block that a line opens.
* `Draft.mode_read_opener`, `Draft.mode_read_other`: what a line does to the block.
* `Draft.mode_after`: the block after lines of which one was the last to open something.
-/
import LuServer.Mode
import LuServer.Proofs.Draft.Growth
import LuServer.Proofs.Grammar.Sign

namespace LuServer

/-! ## Modes of blocks -/

/-- The mode of the bullets that a block takes.  There is none for phrases. -/
def Block.mode : Block → Mode
  | .intent _ => .utterance
  | .list _ _ => .listEntity
  | .ml _ => .mlEntity
  | .outside | .phraseList _ => .other

/-- The mode of the block of an entity. -/
def EntityKind.mode : EntityKind → Mode
  | .list => .listEntity
  | .ml => .mlEntity
  | _ => .other

theorem Block.mode_ofKind (kind : EntityKind) (i : Nat) : (ofKind kind i).mode = kind.mode := by
  cases kind <;> rfl

/-- The mode of the block that a definition opens, where `m` tells the kinds of names. -/
def Definition.mode (m : Model) : Definition → Mode
  | .intent _ _ => .other
  | .typed kind _ _ body => if (Draft.typedBody kind body).isSome then kind.mode else .other
  | .separated name _ body =>
    if body.isSome then ((m.kindOf? name).map EntityKind.mode).getD .other else .other

/-- The mode of the block that a line opens, where `m` tells the kinds of names. -/
def LineForm.mode (m : Model) : LineForm → Mode
  | .header _ => .utterance
  | .definition (.ok declared) => declared.mode m
  | _ => .other

/-! ## Definitions -/

/-- Only the kinds without bullets have other bodies than the lines that follow. -/
theorem Body.block_or_other {kind : EntityKind} {name text : Text} {b : Body}
    (h : read kind name (some text) = .ok b) : b = .block ∨ kind.mode = .other := by
  cases kind with
  | ml | list =>
    rw [read] at h
    split at h
    · exact .inl (Except.ok.inj h).symm
    · cases h
  | _ => exact .inr rfl

namespace Draft

theorem mode_put_of_other {d : Draft} (hblock : d.block = .outside) {kind : EntityKind}
    (hkind : kind.mode = .other) (i : Nat) (b : Body) : (d.put i kind b).block.mode = .other := by
  cases b with
  | block => exact (Block.mode_ofKind kind i).trans hkind
  | _ => exact congrArg Block.mode hblock

theorem mode_fill {d : Draft} (hblock : d.block = .outside) {i : Nat} {kind : EntityKind}
    {name : Text} {body : Option Text} (hok : (d.fill i kind name body).2 = none) :
    (d.fill i kind name body).1.block.mode = if body.isSome then kind.mode else .other := by
  cases body with
  | none => exact congrArg Block.mode hblock
  | some text =>
    unfold fill at hok ⊢
    cases hread : Body.read kind name (some text) with
    | error fault =>
      rw [hread] at hok
      cases hok
    | ok b =>
      rcases Body.block_or_other hread with rfl | hother
      · exact Block.mode_ofKind kind i
      · exact (mode_put_of_other hblock hother i b).trans hother.symm

theorem mode_define {d : Draft} (hblock : d.block = .outside) {declared : Definition}
    (hok : (d.define declared).2 = none) :
    (d.define declared).1.block.mode = declared.mode d.model := by
  cases declared with
  | intent name features => exact congrArg Block.mode hblock
  | typed kind name modifiers body =>
    rw [define] at hok ⊢
    refine mode_fill ?_ hok
    exact hblock
  | separated name modifiers body =>
    rw [Definition.mode]
    rcases d.model.place_cases name with ⟨i, e, hi, he, -⟩ | ⟨hi, he, -⟩
    · rw [define_separated_of_some hi he] at hok ⊢
      rw [Model.kindOf?, he]
      refine mode_fill ?_ hok
      exact hblock
    · -- a name that has no entity yet: what is said of it waits, and no block is opened
      rw [define_separated_of_none hi, Model.kindOf?, he]
      exact (congrArg Block.mode hblock).trans (ite_self _).symm

/-! ## Lines -/

variable {d : Draft}

/-- A line that starts with `#` or `@` decides the block. -/
theorem mode_read_opener {l : Text} (hopens : Line.opens l = true) (hok : (d.read l).2 = none) :
    (d.read l).1.block.mode = (LineForm.ofLine l).mode d.model := by
  unfold read at hok ⊢
  cases hform : LineForm.ofLine l with
  | inert => exact absurd (Line.of_inert hform).1 (by simp [hopens])
  | header name => rfl
  | definition result =>
    rw [hform] at hok
    cases result with
    | error fault => rfl
    | ok declared => exact mode_define rfl hok
  | item content => exact absurd (Line.of_item hform).1 (by simp [hopens])
  | rejected fault =>
    rw [hform] at hok
    cases hok

/-- Any other line leaves bullets what they were. -/
theorem mode_read_other {l : Text} (hopens : Line.opens l = false) :
    (d.read l).1.block.mode = d.block.mode := by
  unfold read
  cases hform : LineForm.ofLine l with
  | inert => rfl
  | header name => exact absurd (Line.of_header hform).1 (by simp [hopens])
  | definition result => exact absurd (Line.of_definition hform).1 (by simp [hopens])
  | item content =>
    -- only a value changes the block, and then only its place in the list
    have htakes := takes_item d content
    change (d.item content).1.block.mode = d.block.mode
    generalize d.item content = result at htakes ⊢
    cases htakes with
    | value hblock _ _ => rw [hblock]; rfl
    | _ => rfl
  | rejected fault => rfl

theorem mode_after_others {ls : List Text} (hothers : ∀ l ∈ ls, Line.opens l = false) :
    (d.after ls).block.mode = d.block.mode := by
  induction ls generalizing d with
  | nil => rfl
  | cons l ls ih =>
    obtain ⟨hl, hls⟩ := List.forall_mem_cons.mp hothers
    rw [after_cons, ih hls, mode_read_other hl]

theorem read_of_accepted {n : Nat} {above below : List Text} {l : Text}
    (hok : d.rejections n (above ++ l :: below) = []) : ((d.after above).read l).2 = none := by
  rw [rejections_append, rejections_cons, List.append_eq_nil_iff, List.append_eq_nil_iff,
    rejection_eq_nil] at hok
  exact hok.2.1

/-- The last line that starts with `#` or `@` decides the block. -/
theorem mode_after {n : Nat} {above below : List Text} {opener : Text}
    (hok : d.rejections n (above ++ opener :: below) = []) (hopens : Line.opens opener = true)
    (hothers : ∀ l ∈ below, Line.opens l = false) :
    (d.after (above ++ opener :: below)).block.mode
      = (LineForm.ofLine opener).mode (d.after above).model := by
  rw [after_append, after_cons, mode_after_others hothers,
    mode_read_opener hopens (read_of_accepted hok)]

end Draft

end LuServer
