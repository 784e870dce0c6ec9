/-
# Where entities come from

A model has the entities that its lines bring in, in their order: a definition with a kind
brings one in, and so does a bullet of an ml entity.  No other line does, and nothing takes one
out again.  A definition of a prebuilt entity is checked against the known names; a child is not.

* `Draft.introduced?`: the entity that a line brings in.
* `Draft.keys_read`, `Draft.keys_after`: names and kinds of the entities after a line and after a
  run of lines.
* `Draft.mem_keys_parse`: an entity is in a model exactly if a line brings it in.
* `prebuilt_entities_by_origin`: where the prebuilt entities of a model come from.
* `unknown_prebuilt_child`: one of them has a name that no prebuilt entity has.
-/
import LuServer.Proofs.Draft.Growth
import LuServer.Proofs.Grammar.Proper
import Mathlib.Data.List.Basic

namespace LuServer

/-! ## Keys of a model -/

namespace Model

theorem mem_keys {m : Model} {name : Text} {kind : EntityKind} :
    (name, kind) ∈ m.keys ↔ ∃ e ∈ m.entities, e.name = name ∧ e.kind = kind := by
  simp [keys, Entity.key]

theorem keys_ensureIntent (m : Model) (name : Text) : (m.ensureIntent name).1.keys = m.keys := by
  rcases m.ensureIntent_cases name with ⟨i, x, h, -⟩ | ⟨h, -⟩
  · rw [h]
  · rw [h]
    rfl

/-- An entity that is asked for comes last if it is new. -/
theorem keys_ensureEntity (m : Model) (name : Text) (kind : EntityKind) :
    (m.ensureEntity name kind).1.keys = appendNew m.keys [(name, kind)] := by
  rw [appendNew_cons, appendNew_nil]
  rcases m.ensureEntity_cases name kind with ⟨i, e, h, he, hkey⟩ | ⟨h, hnew⟩
  · have hmem : (name, kind) ∈ m.keys := List.mem_map.mpr ⟨e, List.mem_of_getElem? he, hkey⟩
    rw [h, if_pos hmem]
  · have hmem : (name, kind) ∉ m.keys := by
      intro hmem
      obtain ⟨e, he, hkey⟩ := List.mem_map.mp hmem
      exact hnew e he hkey
    rw [h, if_neg hmem, keys, List.map_append]
    rfl

theorem keys_addModifiers (m : Model) (name : Text) (mods : Modifiers) :
    (m.addModifiers name mods).keys = m.keys := by
  unfold addModifiers
  split
  · exact keys_modifyEntity (Entity.keeps_addModifiers mods) m _
  · rfl

end Model

namespace Draft

/-! ## One line -/

/-- The child that a bullet declares if it stands in the block of an ml entity. -/
def childIn? (b : Block) (content : Text) : Option Child :=
  match b with
  | .ml _ => (Child.read content).toOption
  | _ => none

theorem childIn?_eq_some {b : Block} {content : Text} {c : Child} :
    childIn? b content = some c ↔ (∃ i, b = .ml i) ∧ Child.read content = .ok c := by
  cases b with
  | ml i => cases hread : Child.read content <;> simp [childIn?, hread, Except.toOption]
  | outside | intent _ | list _ _ | phraseList _ => simp [childIn?]

/-- The entity, by name and kind, that a line brings in when it stands below the lines of a
draft. -/
def introduced? (d : Draft) (l : Text) : Option (Text × EntityKind) :=
  match LineForm.ofLine l with
  | .definition (.ok (.typed kind name _ _)) => some (name, kind)
  | .item content => (childIn? d.block content).map fun c => (c.name, c.kind)
  | _ => none

/-- A line brings in an entity by a definition with its kind or as a child. -/
theorem introduced?_eq_some {d : Draft} {l name : Text} {kind : EntityKind} :
    d.introduced? l = some (name, kind) ↔
      (∃ modifiers body,
        LineForm.ofLine l = .definition (.ok (.typed kind name modifiers body))) ∨
      ∃ content modifiers, LineForm.ofLine l = .item content ∧ (∃ i, d.block = .ml i) ∧
        Child.read content = .ok ⟨kind, name, modifiers⟩ := by
  unfold introduced?
  split
  · next hform => simp [hform, and_comm, eq_comm]
  · next content hform =>
    rw [Option.map_eq_some_iff]
    constructor
    · rintro ⟨⟨kind', name', modifiers⟩, hc, heq⟩
      obtain ⟨rfl, rfl⟩ := Prod.mk.inj heq
      exact .inr ⟨content, modifiers, hform, childIn?_eq_some.mp hc⟩
    · rintro (⟨modifiers, body, h⟩ | ⟨content', modifiers, h, hchild⟩)
      · cases hform.symm.trans h
      · obtain rfl := LineForm.item.inj (hform.symm.trans h)
        exact ⟨_, childIn?_eq_some.mpr hchild, rfl⟩
  · next htyped hitem =>
    constructor
    · rintro ⟨⟩
    · rintro (⟨modifiers, body, h⟩ | ⟨content, modifiers, h, -⟩)
      · exact absurd h (htyped kind name modifiers body)
      · exact absurd h (hitem content)

theorem keys_put (d : Draft) (i : Nat) (kind : EntityKind) (b : Body) :
    (d.put i kind b).model.keys = d.model.keys := by
  cases b with
  | nothing | block => rfl
  | pattern text => exact Model.keys_modifyEntity (Entity.keeps_pattern text) _ _
  | parts names => exact Model.keys_modifyEntity (Entity.keeps_addChildren names) _ _
  | phrases words => exact Model.keys_modifyEntity (Entity.keeps_addPhrases words) _ _

/-- A body brings in nothing, rejected or not. -/
theorem keys_fill (d : Draft) (i : Nat) (kind : EntityKind) (name : Text) (body : Option Text) :
    (d.fill i kind name body).1.model.keys = d.model.keys := by
  unfold fill
  split
  · exact keys_put d i kind _
  · rfl

theorem keys_define_intent (d : Draft) (name : Text) (features : List Text) :
    (d.define (.intent name features)).1.model.keys = d.model.keys :=
  Model.keys_ensureIntent d.model name

theorem keys_define_typed (d : Draft) (kind : EntityKind) (name : Text) (modifiers : Modifiers)
    (body : Option Text) :
    (d.define (.typed kind name modifiers body)).1.model.keys
      = appendNew d.model.keys [(name, kind)] := by
  rw [define]
  dsimp only
  rw [keys_fill, Model.keys_modifyEntity (Entity.keeps_addModifiers modifiers),
    Model.keys_ensureEntity]

/-- A definition without a kind brings in nothing. -/
theorem keys_define_separated (d : Draft) (name : Text) (modifiers : Modifiers)
    (body : Option Text) :
    (d.define (.separated name modifiers body)).1.model.keys = d.model.keys := by
  rcases d.model.place_cases name with ⟨i, e, hi, he, -⟩ | ⟨hi, -⟩
  · rw [define_separated_of_some hi he, keys_fill,
      Model.keys_modifyEntity (Entity.keeps_addModifiers modifiers)]
    rfl
  · rw [define_separated_of_none hi]
    rfl

/-- Of all bullets only children bring in something. -/
theorem keys_item (d : Draft) (content : Text) :
    (d.item content).1.model.keys
      = appendNew d.model.keys
          ((childIn? d.block content).map fun c => (c.name, c.kind)).toList := by
  cases hblock : d.block with
  | ml i =>
    rw [item, hblock]
    dsimp only
    rw [child, childIn?]
    cases Child.read content with
    | error fault => rfl
    | ok c =>
      dsimp only
      rw [Model.keys_modifyEntity (Entity.keeps_addChildren [c.name]),
        Model.keys_modifyEntity (Entity.keeps_addModifiers c.modifiers), Model.keys_ensureEntity]
      rfl
  | outside | intent _ | list _ _ | phraseList _ =>
    change _ = d.model.keys
    have htakes := takes_item d content
    generalize d.item content = result at htakes ⊢
    cases htakes with
    | rejected fault => rfl
    | utterance _ _ => rfl
    | value _ _ _ => exact Model.keys_modifyEntity (Entity.keeps_addValue _) _ _
    | synonym _ _ _ => exact Model.keys_modifyEntity (Entity.keeps_addSynonym _ content) _ _
    | child hml _ => cases hblock.symm.trans hml
    | phrases _ _ => exact Model.keys_modifyEntity (Entity.keeps_addPhrases content.items) _ _

/-- After a line there are the entities from before and the one that it brings in. -/
theorem keys_read (d : Draft) (l : Text) :
    (d.read l).1.model.keys = appendNew d.model.keys (d.introduced? l).toList := by
  unfold read introduced?
  cases LineForm.ofLine l with
  | inert => rfl
  | header name => exact Model.keys_ensureIntent d.model name
  | item content => exact keys_item d content
  | rejected fault => rfl
  | definition result =>
    match result with
    | .error fault => rfl
    | .ok (.intent name features) =>
      exact keys_define_intent { d with block := .outside } name features
    | .ok (.typed kind name modifiers body) =>
      exact keys_define_typed { d with block := .outside } kind name modifiers body
    | .ok (.separated name modifiers body) =>
      exact keys_define_separated { d with block := .outside } name modifiers body

/-! ## Whole documents -/

/-- What the lines of a list bring in, one after the other. -/
def introductions (d : Draft) : List Text → List (Text × EntityKind)
  | [] => []
  | l :: ls => (d.introduced? l).toList ++ (d.read l).1.introductions ls

theorem keys_after (d : Draft) (ls : List Text) :
    (d.after ls).model.keys = appendNew d.model.keys (d.introductions ls) := by
  induction ls generalizing d with
  | nil => rfl
  | cons l ls ih => rw [after_cons, ih, keys_read, introductions, appendNew_append]

theorem mem_introductions {d : Draft} {ls : List Text} {key : Text × EntityKind} :
    key ∈ d.introductions ls ↔
      ∃ above l below, ls = above ++ l :: below ∧ (d.after above).introduced? l = some key := by
  induction ls generalizing d with
  | nil => simp [introductions]
  | cons l ls ih =>
    rw [introductions, List.mem_append, Option.mem_toList, ih]
    constructor
    · rintro (h | ⟨above, line, below, rfl, h⟩)
      · exact ⟨[], l, ls, rfl, h⟩
      · exact ⟨l :: above, line, below, rfl, h⟩
    · rintro ⟨above, line, below, hls, h⟩
      cases above with
      | nil =>
        obtain ⟨rfl, rfl⟩ := List.cons.inj hls
        exact .inl h
      | cons first above =>
        obtain ⟨rfl, rfl⟩ := List.cons.inj hls
        exact .inr ⟨above, line, below, rfl, h⟩

/-- Modifiers that waited bring in nothing. -/
theorem keys_finish (d : Draft) : d.finish.keys = d.model.keys := by
  unfold finish
  generalize d.model = m
  induction d.deferred generalizing m with
  | nil => rfl
  | cons waiting others ih => rw [List.foldl_cons, ih, Model.keys_addModifiers]

end Draft

/-- An entity is in the model of a text exactly if one of its lines brings it in. -/
theorem mem_keys_parse {text culture : Text} {m : Model} (h : parse text culture = .ok m)
    {key : Text × EntityKind} :
    key ∈ m.keys ↔
      ∃ above l below, text.lines = above ++ l :: below ∧
        ((Draft.start culture).after above).introduced? l = some key := by
  obtain ⟨-, rfl⟩ := parse_eq_ok_iff.mp h
  rw [Draft.keys_finish, Draft.keys_after, mem_appendNew, Draft.mem_introductions]
  simp [Draft.start, Model.keys]

/-! ## Prebuilt entities -/

namespace Definition

/-- What is defined as a prebuilt entity has the name of one. -/
def Known : Definition → Prop
  | .typed kind name _ _ => kind = .prebuilt → EntityKind.isPrebuiltName name = true
  | .intent _ _ | .separated _ _ _ => True

theorem known_of_readIntent {rest : Text} {body : Option Text} {d : Definition}
    (h : readIntent rest body = .ok d) : d.Known := by
  unfold readIntent at h
  obtain ⟨_, _, h⟩ := bind_eq_ok.mp h
  obtain ⟨_, h⟩ := ite_throw_eq_ok.mp h
  obtain ⟨_, _, h⟩ := bind_eq_ok.mp h
  obtain ⟨_, _, h⟩ := bind_eq_ok.mp h
  obtain ⟨_, h⟩ := ite_throw_eq_ok.mp h
  obtain ⟨_, h⟩ := ite_throw_eq_ok.mp h
  obtain rfl := Except.ok.inj h
  trivial

theorem known_of_readTyped {kind : EntityKind} {rest : Text} {body : Option Text}
    {d : Definition} (h : readTyped kind rest body = .ok d) : d.Known := by
  unfold readTyped at h
  obtain ⟨_, _, h⟩ := bind_eq_ok.mp h
  obtain ⟨_, h⟩ := ite_throw_eq_ok.mp h
  obtain ⟨_, _, h⟩ := bind_eq_ok.mp h
  obtain ⟨hknown, h⟩ := ite_throw_eq_ok.mp h
  obtain ⟨_, _, h⟩ := bind_eq_ok.mp h
  obtain rfl := Except.ok.inj h
  intro hkind
  simpa [hkind] using hknown

theorem known_of_readSeparated {header : Text} {body : Option Text} {d : Definition}
    (h : readSeparated header body = .ok d) : d.Known := by
  unfold readSeparated at h
  obtain ⟨_, _, h⟩ := bind_eq_ok.mp h
  obtain ⟨_, _, h⟩ := bind_eq_ok.mp h
  obtain ⟨_, _, h⟩ := bind_eq_ok.mp h
  obtain ⟨_, h⟩ := ite_throw_eq_ok.mp h
  obtain rfl := Except.ok.inj h
  trivial

theorem known_of_read {t : Text} {d : Definition} (h : read t = .ok d) : d.Known := by
  unfold read at h
  dsimp only at h
  split at h
  · exact known_of_readIntent h
  · split at h
    · exact known_of_readTyped h
    · exact known_of_readSeparated h

end Definition

/-- A line that defines a prebuilt entity names a known one. -/
theorem LineForm.isPrebuiltName_of_typed {l name : Text} {modifiers : Modifiers}
    {body : Option Text} (h : ofLine l = .definition (.ok (.typed .prebuilt name modifiers body))) :
    EntityKind.isPrebuiltName name = true := by
  obtain ⟨declared, hread⟩ := (Line.of_definition h).2.2.2
  exact Definition.known_of_read hread.symm rfl

/-- **Prebuilt entities by their origin.**  A prebuilt entity is in the model of a text exactly if
a definition gives it a known name, or a child of an ml entity has it, whatever its name is. -/
theorem prebuilt_entities_by_origin {text culture : Text} {m : Model}
    (hparse : parse text culture = .ok m) (name : Text) :
    (∃ e ∈ m.entities, e.name = name ∧ e.kind = .prebuilt) ↔
      (EntityKind.isPrebuiltName name = true ∧ ∃ l ∈ text.lines, ∃ modifiers body,
        LineForm.ofLine l = .definition (.ok (.typed .prebuilt name modifiers body))) ∨
      ∃ above l below content modifiers, text.lines = above ++ l :: below ∧
        LineForm.ofLine l = .item content ∧
        (∃ i, ((Draft.start culture).after above).block = .ml i) ∧
        Child.read content = .ok ⟨.prebuilt, name, modifiers⟩ := by
  rw [← Model.mem_keys, mem_keys_parse hparse]
  constructor
  · rintro ⟨above, l, below, hlines, h⟩
    rcases Draft.introduced?_eq_some.mp h with ⟨modifiers, body, hform⟩ | ⟨content, modifiers, h⟩
    · refine .inl ⟨LineForm.isPrebuiltName_of_typed hform, l, ?_, modifiers, body, hform⟩
      simp [hlines]
    · exact .inr ⟨above, l, below, content, modifiers, hlines, h⟩
  · rintro (⟨-, l, hl, h⟩ | ⟨above, l, below, content, modifiers, hlines, h⟩)
    · obtain ⟨above, below, hlines⟩ := List.append_of_mem hl
      exact ⟨above, l, below, hlines, Draft.introduced?_eq_some.mpr (.inl h)⟩
    · exact ⟨above, l, below, hlines, Draft.introduced?_eq_some.mpr (.inr ⟨content, modifiers, h⟩)⟩

/-- One prebuilt entity from each origin: the name of the second is not known. -/
theorem prebuilt_entities_by_origin_both :
    let text : Text := "@ prebuilt number\n@ ml address =\n- @ prebuilt city".toList
    let unknown := "city".toList
    ∃ m, parse text [] = .ok m ∧
      (∃ e ∈ m.entities, e.name = "number".toList ∧ e.kind = .prebuilt) ∧
      (∃ e ∈ m.entities, e.name = unknown ∧ e.kind = .prebuilt) ∧
      EntityKind.isPrebuiltName unknown = false := by
  intro text unknown
  let m : Model :=
    { entities := [{ name := "number".toList, kind := .prebuilt },
        { name := "address".toList, kind := .ml, children := [unknown] },
        { name := unknown, kind := .prebuilt }] }
  have hparse : parse text [] = .ok m := by decide +kernel
  have hnumber : LineForm.ofLine "@ prebuilt number".toList
      = .definition (.ok (.typed .prebuilt "number".toList ⟨[], []⟩ none)) := rfl
  have hchild : LineForm.ofLine "- @ prebuilt city".toList = .item "@ prebuilt city".toList := rfl
  refine ⟨m, hparse, (prebuilt_entities_by_origin hparse _).mpr (.inl ?_),
    (prebuilt_entities_by_origin hparse _).mpr (.inr ?_), by decide⟩
  · exact ⟨by decide, _, by decide +kernel, _, _, hnumber⟩
  · exact ⟨["@ prebuilt number".toList, "@ ml address =".toList], _, [], _, ⟨[], []⟩,
      by decide +kernel, hchild, ⟨1, by decide +kernel⟩, rfl⟩

/-- The same name is rejected in a definition and gets in as a child. -/
theorem unknown_prebuilt_child :
    EntityKind.isPrebuiltName "foo".toList = false ∧
    parse "@ ml address =\n- @ prebuilt foo".toList [] = .ok {
      entities := [{ name := "address".toList, kind := .ml, children := ["foo".toList] },
        { name := "foo".toList, kind := .prebuilt }] } ∧
    parse "@ prebuilt foo".toList [] = .error [⟨1, 14, .unknownPrebuilt "foo".toList⟩] := by
  decide +kernel

end LuServer
