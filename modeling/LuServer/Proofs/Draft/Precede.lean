/-
# Utterances that came before

No line looks at the utterances that an intent has already; at most it adds one.  So a draft
in which further utterances were put before those of an intent goes through any lines as the
draft without them does, with the same faults, and only keeps them in front.

* `Model.precede`, `Draft.precede`: utterances put before those of an intent.
* `Draft.read_precede`, `Draft.after_precede`, `Draft.rejections_precede`: a line, and any
  lines.
* `Draft.finish_precede`: the finished model.
* `Draft.Silent`, `Draft.exists_silent`: a draft in which an intent has no utterance yet, and
  every draft as one of these with utterances put in front.
-/
import LuServer.Proofs.Draft.Growth

namespace LuServer

/-- Changes of members of a list can change places if they can for each member. -/
theorem modify_comm {α : Type} {f g : α → α} (h : ∀ x, g (f x) = f (g x)) (xs : List α)
    (i j : Nat) : (xs.modify i f).modify j g = (xs.modify j g).modify i f := by
  refine List.ext_getElem? ?_
  intro k
  simp only [List.getElem?_modify, Option.map_eq_map, Option.map_map]
  congr 1
  funext x
  by_cases hik : i = k
  · by_cases hjk : j = k
    · simp [hik, hjk, h]
    · simp [hik, hjk]
  · simp [hik]

theorem modify_congr {α : Type} {f g : α → α} {xs : List α} {i : Nat} {x : α}
    (hx : xs[i]? = some x) (h : f x = g x) : xs.modify i f = xs.modify i g := by
  refine List.ext_getElem? ?_
  intro j
  simp only [List.getElem?_modify]
  by_cases hij : i = j
  · subst hij
    simp [hx, h]
  · simp [hij]

theorem modify_append_of_lt {α : Type} (f : α → α) {xs : List α} {i : Nat} (hi : i < xs.length)
    (ys : List α) : (xs ++ ys).modify i f = xs.modify i f ++ ys := by
  induction xs generalizing i with
  | nil => cases hi
  | cons x xs ih =>
    cases i with
    | zero => rfl
    | succ i => simp [ih (Nat.lt_of_succ_lt_succ hi)]

namespace Model

/-- The model with utterances put before those of the intent at place `i`. -/
def precede (m : Model) (i : Nat) (us : List Text) : Model :=
  m.modifyIntent i fun x => { x with utterances := us ++ x.utterances }

theorem precede_modifyIntent {f : Intent → Intent} {us : List Text}
    (hf : ∀ x, f { x with utterances := us ++ x.utterances }
      = { f x with utterances := us ++ (f x).utterances }) (m : Model) (i j : Nat) :
    (m.precede i us).modifyIntent j f = (m.modifyIntent j f).precede i us := by
  unfold precede modifyIntent
  dsimp only
  rw [modify_comm hf]

theorem precede_ensureIntent {m : Model} {i : Nat} (hi : i < m.intents.length) (us : List Text)
    (name : Text) :
    (m.precede i us).ensureIntent name
      = ((m.ensureIntent name).1.precede i us, (m.ensureIntent name).2) := by
  have hfind : ((m.precede i us).intents.findIdx? fun x => x.name = name)
      = m.intents.findIdx? fun x => x.name = name := by
    have hnames : (m.precede i us).intents.map Intent.name = m.intents.map Intent.name :=
      map_modify (by intro x; rfl) m.intents i
    have hmap (xs : List Intent) : (xs.map Intent.name).findIdx? (· = name)
        = xs.findIdx? fun x => x.name = name := List.findIdx?_map
    rw [← hmap, hnames, hmap]
  unfold ensureIntent
  rw [hfind]
  split
  · rfl
  · -- a new intent comes after the one at place `i`
    simp only [precede, modifyIntent, List.length_modify]
    rw [modify_append_of_lt _ hi]

theorem precede_ensureEntity (m : Model) (i : Nat) (us : List Text) (name : Text)
    (kind : EntityKind) :
    (m.precede i us).ensureEntity name kind
      = ((m.ensureEntity name kind).1.precede i us, (m.ensureEntity name kind).2) := by
  unfold ensureEntity
  dsimp only [precede, modifyIntent]
  split <;> rfl

theorem precede_addModifiers (m : Model) (i : Nat) (us : List Text) (name : Text)
    (mods : Modifiers) :
    (m.precede i us).addModifiers name mods = (m.addModifiers name mods).precede i us := by
  unfold addModifiers
  rw [show (m.precede i us).placeOf? name = m.placeOf? name from rfl]
  split <;> rfl

end Model

namespace Draft

/-- The draft with utterances put before those of the intent at place `i`. -/
def precede (d : Draft) (i : Nat) (us : List Text) : Draft :=
  { d with model := d.model.precede i us }

section

variable (i : Nat) (us : List Text)

theorem put_precede (d : Draft) (j : Nat) (kind : EntityKind) (b : Body) :
    (d.precede i us).put j kind b = (d.put j kind b).precede i us := by
  cases b <;> rfl

theorem fill_precede (d : Draft) (j : Nat) (kind : EntityKind) (name : Text)
    (body : Option Text) :
    (d.precede i us).fill j kind name body
      = ((d.fill j kind name body).1.precede i us, (d.fill j kind name body).2) := by
  unfold fill
  split
  · rw [put_precede]
  · rfl

theorem define_precede {d : Draft} (hi : i < d.model.intents.length) (declared : Definition) :
    (d.precede i us).define declared
      = ((d.define declared).1.precede i us, (d.define declared).2) := by
  cases declared with
  | intent name features =>
    rw [define, define, precede]
    dsimp only
    rw [Model.precede_ensureIntent hi]
    dsimp only
    rw [Model.precede_modifyIntent (by intro x; rfl)]
    rfl
  | typed kind name modifiers body =>
    rw [define, define, precede]
    dsimp only
    rw [Model.precede_ensureEntity]
    exact fill_precede i us
      { d with
        model := (d.model.ensureEntity name kind).1.modifyEntity
          (d.model.ensureEntity name kind).2 (·.addModifiers modifiers) } _ kind name _
  | separated name modifiers body =>
    rcases d.model.place_cases name with ⟨j, e, hj, hfirst, -, -⟩ | ⟨hj, -⟩
    · rw [define_separated_of_some hj hfirst,
        define_separated_of_some (d := d.precede i us) hj hfirst]
      exact fill_precede i us
        { d with
          model := { d.model with references := d.model.references ++ [name] }.modifyEntity j
            (·.addModifiers modifiers) } j e.kind name body
    · rw [define_separated_of_none hj, define_separated_of_none (d := d.precede i us) hj]
      rfl

theorem utterance_precede (d : Draft) (j : Nat) (content : Text) :
    (d.precede i us).utterance j content
      = ((d.utterance j content).1.precede i us, (d.utterance j content).2) := by
  unfold utterance
  split
  · rfl
  · next mentions _ =>
    have hgrow (x : Intent) :
        ({ x with utterances := us ++ x.utterances } : Intent).addUtterance content
          = { x.addUtterance content with
              utterances := us ++ (x.addUtterance content).utterances } := by
      simp [Intent.addUtterance]
    have hcomm := Model.precede_modifyIntent (f := (·.addUtterance content)) hgrow
      (d.model.withMentions mentions) i j
    exact Prod.ext (congrArg (fun m => ({ d with model := m } : Draft)) hcomm) rfl

theorem listItem_precede (d : Draft) (j : Nat) (value : Option Nat) (content : Text) :
    (d.precede i us).listItem j value content
      = ((d.listItem j value content).1.precede i us, (d.listItem j value content).2) := by
  unfold listItem
  cases content.dropLast? ':' with
  | some canonical =>
    dsimp only
    split <;> rfl
  | none =>
    dsimp only
    split
    · rfl
    · cases value <;> rfl

theorem child_precede (d : Draft) (j : Nat) (content : Text) :
    (d.precede i us).child j content
      = ((d.child j content).1.precede i us, (d.child j content).2) := by
  unfold child
  split
  · rfl
  · next c _ =>
    dsimp only [precede]
    rw [Model.precede_ensureEntity]
    rfl

theorem phrase_precede (d : Draft) (j : Nat) (content : Text) :
    (d.precede i us).phrase j content
      = ((d.phrase j content).1.precede i us, (d.phrase j content).2) := by
  unfold phrase
  split <;> rfl

theorem item_precede (d : Draft) (content : Text) :
    (d.precede i us).item content
      = ((d.item content).1.precede i us, (d.item content).2) := by
  unfold item
  rw [show (d.precede i us).block = d.block from rfl]
  cases d.block with
  | outside => rfl
  | intent j => exact utterance_precede i us d j content
  | list j value => exact listItem_precede i us d j value content
  | ml j => exact child_precede i us d j content
  | phraseList j => exact phrase_precede i us d j content

/-- A line does to the rest of the draft what it does without the utterances in front. -/
theorem read_precede {d : Draft} (hi : i < d.model.intents.length) (l : Text) :
    (d.precede i us).read l = ((d.read l).1.precede i us, (d.read l).2) := by
  unfold read
  cases LineForm.ofLine l with
  | inert => rfl
  | rejected fault => rfl
  | header name =>
    rw [apply, apply, precede]
    dsimp only
    rw [Model.precede_ensureIntent hi]
    rfl
  | definition result =>
    cases result with
    | error fault => rfl
    | ok declared => exact define_precede i us (d := { d with block := .outside }) hi declared
  | item content => exact item_precede i us d content

theorem length_intents_read {d : Draft} (hi : i < d.model.intents.length) (l : Text) :
    i < (d.read l).1.model.intents.length := by
  have hlength := (extends_read d l).intents.length_le
  rw [List.length_map, List.length_map] at hlength
  exact Nat.lt_of_lt_of_le hi hlength

theorem after_precede {d : Draft} (hi : i < d.model.intents.length) (ls : List Text) :
    (d.precede i us).after ls = (d.after ls).precede i us := by
  induction ls generalizing d with
  | nil => rfl
  | cons l ls ih =>
    rw [after_cons, after_cons, read_precede i us hi, ih (length_intents_read i hi l)]

theorem rejections_precede {d : Draft} (hi : i < d.model.intents.length) (n : Nat)
    (ls : List Text) : (d.precede i us).rejections n ls = d.rejections n ls := by
  induction ls generalizing d n with
  | nil => rfl
  | cons l ls ih =>
    rw [rejections_cons, rejections_cons, read_precede i us hi, ih (length_intents_read i hi l)]

theorem finish_precede (d : Draft) : (d.precede i us).finish = d.finish.precede i us := by
  unfold finish precede
  dsimp only
  generalize d.model = m
  induction d.deferred generalizing m with
  | nil => rfl
  | cons waiting others ih =>
    rw [List.foldl_cons, List.foldl_cons, Model.precede_addModifiers, ih]

end

/-! ## Drafts without the utterances of an intent -/

theorem precede_nil (d : Draft) (i : Nat) : d.precede i [] = d := by
  have hmodify : d.model.intents.modify i (fun x => { x with utterances := [] ++ x.utterances })
      = d.model.intents := List.modify_id i _
  rw [precede, Model.precede, Model.modifyIntent, hmodify]

theorem precede_precede (d : Draft) (i : Nat) (us vs : List Text) :
    (d.precede i vs).precede i us = d.precede i (us ++ vs) := by
  unfold precede Model.precede Model.modifyIntent
  dsimp only
  rw [List.modify_modify_eq]
  simp [Function.comp_def]

/-- The intent at place `i` is there and has no utterance yet. -/
def Silent (d : Draft) (i : Nat) : Prop :=
  ∃ x, d.model.intents[i]? = some x ∧ x.utterances = []

theorem Silent.lt {d : Draft} {i : Nat} (h : d.Silent i) : i < d.model.intents.length := by
  obtain ⟨x, hx, -⟩ := h
  exact (List.getElem?_eq_some_iff.mp hx).1

/-- Every draft is one without the utterances of an intent, with these put in front. -/
theorem exists_silent {d : Draft} {i : Nat} {x : Intent} (hx : d.model.intents[i]? = some x) :
    ∃ b : Draft, b.Silent i ∧ b.block = d.block ∧ d = b.precede i x.utterances := by
  refine ⟨{ d with model := d.model.modifyIntent i fun x => { x with utterances := [] } },
    ⟨{ x with utterances := [] }, by simp [Model.modifyIntent, hx], rfl⟩, rfl, ?_⟩
  unfold precede Model.precede Model.modifyIntent
  dsimp only
  rw [List.modify_modify_eq, modify_congr hx (g := id) (by simp), List.modify_id]

/-- The first utterance of an intent is one put in front of none. -/
theorem Silent.precede_eq {d : Draft} {i : Nat} (h : d.Silent i) (content : Text) :
    { d with model := d.model.modifyIntent i (·.addUtterance content) }
      = d.precede i [content] := by
  obtain ⟨x, hx, hnone⟩ := h
  unfold precede Model.precede Model.modifyIntent
  rw [modify_congr hx (g := fun x => { x with utterances := [content] ++ x.utterances })
    (by simp [Intent.addUtterance, hnone])]

end Draft

end LuServer
