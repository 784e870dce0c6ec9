/-
# Modifiers are never lost

A definition without a kind gives roles and features to a name.  They go to the first entity of
that name at once if there is one, and wait until the end of the document otherwise.  Since the
first entity of a name stays the first one and only grows, it has them all in the end, wherever
the entity is defined and however many there are of its name.

* `Entity.Has`, `Model.Gives`: an entity, and the first entity with a name, has modifiers.
* `Draft.Retains`: modifiers that are not lost yet.
* `Draft.retains_define`, `Draft.retains_after`: so it is after a definition without a kind, and
  after any lines below it.
* `Draft.has_of_retains`: then the first entity with the name has the modifiers.
* `separated_modifiers_kept`: no modifiers are lost, and a name without an entity is reported.
-/
import LuServer.Proofs.Draft.Growth
import LuServer.Proofs.Model.Problems

namespace LuServer

namespace Entity

/-- An entity has these modifiers, and perhaps others. -/
structure Has (e : Entity) (mods : Modifiers) : Prop where
  roles : mods.roles ⊆ e.roles
  features : mods.features ⊆ e.features

theorem has_addModifiers (e : Entity) (mods : Modifiers) : (e.addModifiers mods).Has mods where
  roles _ hr := mem_appendNew.mpr (.inr hr)
  features _ hf := mem_appendNew.mpr (.inr hf)

theorem has_of_isEmpty (e : Entity) {mods : Modifiers} (h : mods.isEmpty = true) : e.Has mods := by
  rw [Modifiers.isEmpty, Bool.and_eq_true, List.isEmpty_iff, List.isEmpty_iff] at h
  exact ⟨by simp [h.1], by simp [h.2]⟩

theorem Has.extends {e f : Entity} {mods : Modifiers} (h : e.Has mods) (hef : e.Extends f) :
    f.Has mods where
  roles := List.Subset.trans h.roles hef.roles
  features := List.Subset.trans h.features hef.features

end Entity

namespace Model

/-- The first entity with a name has these modifiers. -/
def Gives (m : Model) (name : Text) (mods : Modifiers) : Prop :=
  ∃ e, m.entity? name = some e ∧ e.Has mods

theorem Gives.extends {m n : Model} {name : Text} {mods : Modifiers} (h : m.Gives name mods)
    (hmn : m.Extends n) : n.Gives name mods := by
  obtain ⟨e, he, hhas⟩ := h
  obtain ⟨f, hf, hef⟩ := hmn.entity? he
  exact ⟨f, hf, hhas.extends hef⟩

/-- Modifiers that are added to the first entity with a name are there. -/
theorem gives_modifyEntity {m : Model} {name : Text} {i : Nat} {e : Entity}
    (hi : m.placeOf? name = some i) (he : m.entity? name = some e) (mods : Modifiers) :
    (m.modifyEntity i (·.addModifiers mods)).Gives name mods := by
  refine ⟨e.addModifiers mods, ?_, e.has_addModifiers mods⟩
  rw [entity?_modifyEntity (Entity.keeps_addModifiers mods), if_pos hi, he]
  rfl

/-- If a name has an entity, modifiers for the name find it. -/
theorem gives_addModifiers {m : Model} {name : Text} {kind : EntityKind}
    (h : m.kindOf? name = some kind) (mods : Modifiers) :
    (m.addModifiers name mods).Gives name mods := by
  rcases m.place_cases name with ⟨i, e, hi, he, -⟩ | ⟨-, he, -⟩
  · rw [addModifiers, hi]
    exact gives_modifyEntity hi he mods
  · rw [kindOf?, he] at h
    cases h

end Model

namespace Draft

/-! ## Modifiers that wait -/

/-- The modifiers are not lost: the first entity with the name has them, or they wait for one. -/
def Retains (d : Draft) (name : Text) (mods : Modifiers) : Prop :=
  d.model.Gives name mods ∨ mods.isEmpty = true ∨ (name, mods) ∈ d.deferred

theorem Retains.extends {d e : Draft} {name : Text} {mods : Modifiers} (h : d.Retains name mods)
    (hmodel : d.model.Extends e.model) (hdeferred : d.deferred ⊆ e.deferred) :
    e.Retains name mods := by
  rcases h with h | h | h
  · exact .inl (h.extends hmodel)
  · exact .inr (.inl h)
  · exact .inr (.inr (hdeferred h))

theorem deferred_fill (d : Draft) (i : Nat) (kind : EntityKind) (name : Text)
    (body : Option Text) : (d.fill i kind name body).1.deferred = d.deferred := by
  unfold fill
  split
  · next b _ => cases b <;> rfl
  · rfl

/-- Nothing stops waiting before the end of the document. -/
theorem deferred_define (d : Draft) (declared : Definition) :
    d.deferred ⊆ (d.define declared).1.deferred := by
  cases declared with
  | intent name features => exact List.Subset.refl _
  | typed kind name modifiers body =>
    rw [define]
    dsimp only
    rw [deferred_fill]
    exact List.Subset.refl _
  | separated name modifiers body =>
    rcases d.model.place_cases name with ⟨i, e, hi, he, -⟩ | ⟨hi, -⟩
    · rw [define_separated_of_some hi he, deferred_fill]
      exact List.Subset.refl _
    · rw [define_separated_of_none hi]
      exact List.subset_append_left _ _

theorem deferred_item (d : Draft) (content : Text) : (d.item content).1.deferred = d.deferred := by
  have htakes := takes_item d content
  generalize d.item content = result at htakes ⊢
  cases htakes <;> rfl

theorem deferred_read (d : Draft) (l : Text) : d.deferred ⊆ (d.read l).1.deferred := by
  unfold read
  cases LineForm.ofLine l with
  | inert => exact List.Subset.refl _
  | header name => exact List.Subset.refl _
  | definition result =>
    cases result with
    | error fault => exact List.Subset.refl _
    | ok declared => exact deferred_define { d with block := .outside } declared
  | item content =>
    rw [apply, deferred_item]
    exact List.Subset.refl _
  | rejected fault => exact List.Subset.refl _

/-! ## Lines -/

/-- A definition without a kind gives its modifiers to the name it speaks of. -/
theorem retains_define (d : Draft) (name : Text) (mods : Modifiers) (body : Option Text) :
    (d.define (.separated name mods body)).1.Retains name mods ∧
      name ∈ (d.define (.separated name mods body)).1.model.references := by
  rcases d.model.place_cases name with ⟨i, e, hi, he, -⟩ | ⟨hi, -⟩
  · rw [define_separated_of_some hi he]
    generalize hm : { d.model with references := d.model.references ++ [name] }.modifyEntity i
      (·.addModifiers mods) = m
    have hgives : m.Gives name mods := hm ▸ Model.gives_modifyEntity hi he mods
    have hname : name ∈ m.references := by
      rw [← hm]
      exact List.mem_append_right _ List.mem_cons_self
    have hfill := extends_fill { d with model := m } i e.kind name body
    exact ⟨.inl (hgives.extends hfill), hfill.references.subset hname⟩
  · rw [define_separated_of_none hi]
    refine ⟨?_, List.mem_append_right _ List.mem_cons_self⟩
    cases hempty : mods.isEmpty with
    | true => exact .inr (.inl hempty)
    | false => exact .inr (.inr (List.mem_append_right _ List.mem_cons_self))

theorem retains_after {d : Draft} {name : Text} {mods : Modifiers} (h : d.Retains name mods)
    (ls : List Text) : (d.after ls).Retains name mods := by
  induction ls generalizing d with
  | nil => exact h
  | cons l ls ih => exact ih (h.extends (extends_read d l) (deferred_read d l))

/-! ## The end of the document -/

/-- If a name has an entity at the end of the document, the entity has what the name was given. -/
theorem has_of_retains {d : Draft} {name : Text} {mods : Modifiers} (h : d.Retains name mods)
    {e : Entity} (he : d.finish.entity? name = some e) : e.Has mods := by
  suffices hgives : mods.isEmpty = true ∨ d.finish.Gives name mods by
    rcases hgives with hempty | ⟨f, hf, hhas⟩
    · exact e.has_of_isEmpty hempty
    · obtain rfl : f = e := Option.some.inj (hf.symm.trans he)
      exact hhas
  rcases h with h | h | h
  · exact .inr (h.extends d.extends_finish)
  · exact .inl h
  · obtain ⟨earlier, later, hdeferred⟩ := List.append_of_mem h
    have hkind : d.finish.kindOf? name = some e.kind := by rw [Model.kindOf?, he]; rfl
    rw [finish, hdeferred, List.foldl_append, List.foldl_cons] at hkind ⊢
    -- the name has its entity already when its modifiers come up
    rw [Model.kindOf?, map_entity?_foldl_addModifiers (fun _ _ => rfl),
      Model.map_entity?_addModifiers (fun _ _ => rfl)] at hkind
    exact .inr ((Model.gives_addModifiers hkind mods).extends (extends_foldl_addModifiers _ later))

end Draft

/-- **Separated modifiers are never lost.**  In a text that can be read, the first entity of a name
has all roles and features that a definition without a kind gives to the name.  If no entity has
the name, the name is kept and reported. -/
theorem separated_modifiers_kept {text culture : Text} {m : Model}
    (hparse : parse text culture = .ok m) {l : Text} (hl : l ∈ text.lines) {name : Text}
    {mods : Modifiers} {body : Option Text}
    (hform : LineForm.ofLine l = .definition (.ok (.separated name mods body))) :
    (∀ e, m.entity? name = some e → mods.roles ⊆ e.roles ∧ mods.features ⊆ e.features) ∧
      (m.entity? name = none → name ∈ m.references ∧ .kindlessName name ∈ m.problems) := by
  obtain ⟨-, rfl⟩ := parse_eq_ok_iff.mp hparse
  obtain ⟨above, below, hlines⟩ := List.append_of_mem hl
  have hread : ∀ d : Draft,
      (d.read l).1.Retains name mods ∧ name ∈ (d.read l).1.model.references := by
    intro d
    rw [Draft.read, hform]
    exact Draft.retains_define { d with block := .outside } name mods body
  rw [hlines, Draft.after_append, Draft.after_cons]
  generalize (Draft.start culture).after above = d
  obtain ⟨hretains, hname⟩ := hread d
  constructor
  · intro e he
    obtain ⟨hroles, hfeatures⟩ := Draft.has_of_retains (Draft.retains_after hretains below) he
    exact ⟨hroles, hfeatures⟩
  · intro hnone
    have hgrown := (Draft.extends_after (d.read l).1 below).trans (Draft.extends_finish _)
    have hreferences := hgrown.references.subset hname
    refine ⟨hreferences, List.count_pos_iff.mp ?_⟩
    rw [Model.count_kindless, if_pos ⟨hreferences, by rw [Model.defines, hnone]; rfl⟩]
    exact Nat.one_pos

/-- An entity that is a child before it is defined again, and a name that is not defined. -/
theorem separated_modifiers_kept_child :
    let text : Text := ("@ zip hasRoles home usesFeature plan = /x/\n@ ml address =\n"
      ++ "- @ regex zip\n@ list zip =\n@ city usesFeature zip").toList
    let zip : Entity :=
      { name := "zip".toList, kind := .regex, roles := ["home".toList],
        features := ["plan".toList] }
    ∃ m, parse text [] = .ok m ∧
      (m.entity? "zip".toList = some zip ∧ ["home".toList] ⊆ zip.roles ∧
        ["plan".toList] ⊆ zip.features) ∧
      m.entity? "city".toList = none ∧ .kindlessName "city".toList ∈ m.problems := by
  intro text zip
  let m : Model :=
    { entities := [{ name := "address".toList, kind := .ml, children := ["zip".toList] }, zip,
        { name := "zip".toList, kind := .list }]
      references := ["zip".toList, "city".toList] }
  have hparse : parse text [] = .ok m := by decide +kernel
  have hzip : LineForm.ofLine "@ zip hasRoles home usesFeature plan = /x/".toList
      = .definition (.ok (.separated "zip".toList ⟨["home".toList], ["plan".toList]⟩
          (some "/x/".toList))) :=
    rfl
  have hcity : LineForm.ofLine "@ city usesFeature zip".toList
      = .definition (.ok (.separated "city".toList ⟨[], ["zip".toList]⟩ none)) :=
    rfl
  exact ⟨m, hparse, ⟨rfl, (separated_modifiers_kept hparse (by decide +kernel) hzip).1 zip rfl⟩,
    rfl, ((separated_modifiers_kept hparse (by decide +kernel) hcity).2 rfl).2⟩

end LuServer
