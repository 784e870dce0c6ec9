/-
# Models only grow

Whatever a line says, the intents and entities that are there stay where they are, with
their names and kinds, and new ones come after them.  So a place that is found once is good
for the rest of the document.

* `Entity.Extends`, `Model.Extends`: an entity and a model that have grown from others.
* `Model.ensureIntent_cases`, `Model.ensureEntity_cases`, `Model.place_cases`: how a name is
  looked up.
* `Model.kindOf?`: the kind that a name has.
* `Model.keys`: names and kinds of all entities.
* `Model.entity?_modifyEntity`, `Model.Extends.entity?`: the first entity with a name, after a
  change and in a model that has grown.
* `Model.extends_modifyIntent`, `Model.extends_modifyEntity`, `Model.extends_ensureIntent`,
  `Model.extends_ensureEntity`: the steps in which a model grows.
* `Draft.extends_read`, `Draft.extends_after`, `Draft.extends_finish`: a line, a run of lines, and
  the end of the document.
-/
import LuServer.Proofs.Draft.Bullet
import LuServer.Proofs.Draft.Reading

namespace LuServer

namespace Entity

/-- What tells entities apart. -/
def key (e : Entity) : Text × EntityKind :=
  (e.name, e.kind)

/-- An entity that has grown from `e`: name and kind are the same, and no value of a list, no role
and no feature is lost. -/
structure Extends (e f : Entity) : Prop where
  key : f.key = e.key
  values : e.values.length ≤ f.values.length
  roles : e.roles ⊆ f.roles
  features : e.features ⊆ f.features

theorem Extends.name {e f : Entity} (h : e.Extends f) : f.name = e.name :=
  congrArg Prod.fst h.key

theorem Extends.refl (e : Entity) : e.Extends e :=
  ⟨rfl, Nat.le_refl _, List.Subset.refl _, List.Subset.refl _⟩

theorem Extends.trans {e f g : Entity} (hef : e.Extends f) (hfg : f.Extends g) : e.Extends g where
  key := hfg.key.trans hef.key
  values := Nat.le_trans hef.values hfg.values
  roles := List.Subset.trans hef.roles hfg.roles
  features := List.Subset.trans hef.features hfg.features

/-- A change with which entities only grow. -/
def Keeps (f : Entity → Entity) : Prop :=
  ∀ e : Entity, e.Extends (f e)

theorem keeps_addModifiers (mods : Modifiers) : Keeps (·.addModifiers mods) :=
  fun e => { Extends.refl e with
    key := rfl
    roles := fun _ hr => mem_appendNew.mpr (.inl hr)
    features := fun _ hf => mem_appendNew.mpr (.inl hf) }

theorem keeps_addChildren (names : List Text) : Keeps (·.addChildren names) :=
  fun e => { Extends.refl e with key := rfl }

theorem keeps_addPhrases (words : List Text) : Keeps (·.addPhrases words) :=
  fun e => { Extends.refl e with key := rfl }

theorem keeps_pattern (text : Text) : Keeps fun e => { e with pattern := some text } :=
  fun e => { Extends.refl e with key := rfl }

theorem keeps_addValue (canonical : Text) : Keeps (·.addValue canonical) :=
  fun e => { Extends.refl e with key := rfl, values := by simp [addValue] }

theorem keeps_addSynonym (v : Nat) (synonym : Text) : Keeps (·.addSynonym v synonym) :=
  fun e => { Extends.refl e with key := rfl, values := by simp [addSynonym] }

end Entity

namespace Model

/-! ## Looking a name up -/

theorem ensureIntent_cases (m : Model) (name : Text) :
    (∃ i x, m.ensureIntent name = (m, i) ∧ m.intents[i]? = some x ∧ x.name = name) ∨
    (m.ensureIntent name = ({ m with intents := m.intents ++ [{ name }] }, m.intents.length) ∧
      ∀ x ∈ m.intents, x.name ≠ name) := by
  unfold ensureIntent
  cases hfind : m.intents.findIdx? fun i => i.name = name with
  | some i =>
    obtain ⟨hi, hname, _⟩ := List.findIdx?_eq_some_iff_getElem.mp hfind
    exact .inl ⟨i, m.intents[i], rfl, List.getElem?_eq_getElem hi, of_decide_eq_true hname⟩
  | none =>
    refine .inr ⟨rfl, ?_⟩
    intro x hx
    exact of_decide_eq_false (List.findIdx?_eq_none_iff.mp hfind x hx)

theorem ensureEntity_cases (m : Model) (name : Text) (kind : EntityKind) :
    (∃ i e, m.ensureEntity name kind = (m, i) ∧ m.entities[i]? = some e ∧
      e.key = (name, kind)) ∨
    (m.ensureEntity name kind
        = ({ m with entities := m.entities ++ [{ name, kind }] }, m.entities.length) ∧
      ∀ e ∈ m.entities, e.key ≠ (name, kind)) := by
  unfold ensureEntity
  cases hfind : m.entities.findIdx? fun e => e.name = name ∧ e.kind = kind with
  | some i =>
    obtain ⟨hi, hkey, _⟩ := List.findIdx?_eq_some_iff_getElem.mp hfind
    refine .inl ⟨i, m.entities[i], rfl, List.getElem?_eq_getElem hi, ?_⟩
    exact Prod.ext (of_decide_eq_true hkey).1 (of_decide_eq_true hkey).2
  | none =>
    refine .inr ⟨rfl, ?_⟩
    intro e he hkey
    have hnone := of_decide_eq_false (List.findIdx?_eq_none_iff.mp hfind e he)
    exact hnone ⟨congrArg Prod.fst hkey, congrArg Prod.snd hkey⟩

theorem place_cases (m : Model) (name : Text) :
    (∃ i e, m.placeOf? name = some i ∧ m.entity? name = some e ∧ m.entities[i]? = some e ∧
      e.name = name) ∨
    (m.placeOf? name = none ∧ m.entity? name = none ∧ ∀ e ∈ m.entities, e.name ≠ name) := by
  unfold placeOf? entity?
  cases hfind : m.entities.findIdx? fun e => e.name = name with
  | some i =>
    obtain ⟨hi, hname, hbefore⟩ := List.findIdx?_eq_some_iff_getElem.mp hfind
    refine .inl ⟨i, m.entities[i], rfl, ?_, List.getElem?_eq_getElem hi, of_decide_eq_true hname⟩
    refine List.find?_eq_some_iff_getElem.mpr ⟨hname, i, hi, rfl, ?_⟩
    intro j hj
    simpa using hbefore j hj
  | none =>
    have hnone := List.findIdx?_eq_none_iff.mp hfind
    refine .inr ⟨rfl, ?_, fun e he => of_decide_eq_false (hnone e he)⟩
    rw [List.find?_eq_none]
    intro e he
    simpa using hnone e he

/-! ## The kind of a name -/

/-- The kind of the first entity with a name. -/
def kindOf? (m : Model) (name : Text) : Option EntityKind :=
  (m.entity? name).map Entity.kind

theorem kindOf?_eq (m : Model) (name : Text) :
    m.kindOf? name = ((m.entities.map Entity.key).find? fun k => k.1 = name).map Prod.snd := by
  rw [kindOf?, entity?, List.find?_map, Option.map_map]
  rfl

/-- The first entity with a name stays the first. -/
theorem kindOf?_of_keys {m n : Model} (h : m.entities.map Entity.key <+: n.entities.map Entity.key)
    {name : Text} {kind : EntityKind} (hkind : m.kindOf? name = some kind) :
    n.kindOf? name = some kind := by
  obtain ⟨rest, hrest⟩ := h
  rw [kindOf?_eq] at hkind ⊢
  rw [← hrest, List.find?_append, Option.map_or, hkind, Option.some_or]

/-! ## Growth -/

/-- A model that has grown from `m`: intents and entities keep their places, and nothing that is
written into an entity or spoken of is lost. -/
structure Extends (m n : Model) : Prop where
  intents : m.intents.map Intent.name <+: n.intents.map Intent.name
  entities : m.entities.map Entity.key <+: n.entities.map Entity.key
  grown : ∀ (i : Nat) (e : Entity), m.entities[i]? = some e →
    ∃ f, n.entities[i]? = some f ∧ e.Extends f
  references : m.references <+: n.references
  mentions : m.patternReferences <+: n.patternReferences

theorem Extends.refl (m : Model) : m.Extends m :=
  ⟨List.prefix_refl _, List.prefix_refl _, fun _ e he => ⟨e, he, .refl e⟩, List.prefix_refl _,
    List.prefix_refl _⟩

theorem Extends.trans {m n o : Model} (hmn : m.Extends n) (hno : n.Extends o) : m.Extends o := by
  refine ⟨hmn.intents.trans hno.intents, hmn.entities.trans hno.entities, ?_,
    hmn.references.trans hno.references, hmn.mentions.trans hno.mentions⟩
  intro i e he
  obtain ⟨f, hf, hef⟩ := hmn.grown i e he
  obtain ⟨g, hg, hfg⟩ := hno.grown i f hf
  exact ⟨g, hg, hef.trans hfg⟩

theorem map_modify {α β : Type} {f : α → α} {g : α → β} (h : ∀ x, g (f x) = g x) (xs : List α)
    (i : Nat) : (xs.modify i f).map g = xs.map g := by
  refine List.ext_getElem? ?_
  intro j
  rw [List.getElem?_map, List.getElem?_map, List.getElem?_modify, Option.map_eq_map,
    Option.map_map]
  congr 1
  funext x
  by_cases hij : i = j
  · simp [hij, h]
  · simp [hij]

/-- Names and kinds of the entities, in their order. -/
def keys (m : Model) : List (Text × EntityKind) :=
  m.entities.map Entity.key

theorem keys_modifyEntity {f : Entity → Entity} (hf : Entity.Keeps f) (m : Model) (i : Nat) :
    (m.modifyEntity i f).keys = m.keys :=
  map_modify (fun e => (hf e).key) _ _

theorem extends_modifyIntent {f : Intent → Intent} (hname : ∀ x, (f x).name = x.name) (m : Model)
    (i : Nat) : m.Extends (m.modifyIntent i f) := by
  have hnames : (m.modifyIntent i f).intents.map Intent.name = m.intents.map Intent.name :=
    map_modify hname _ _
  exact { Extends.refl m with intents := hnames ▸ List.prefix_refl _ }

theorem extends_modifyEntity {f : Entity → Entity} (hf : Entity.Keeps f) (m : Model) (i : Nat) :
    m.Extends (m.modifyEntity i f) := by
  have hkeys : m.keys <+: (m.modifyEntity i f).keys :=
    keys_modifyEntity hf m i ▸ List.prefix_refl _
  refine { Extends.refl m with entities := hkeys, grown := ?_ }
  intro j e he
  rw [modifyEntity]
  dsimp only
  rw [List.getElem?_modify, he]
  by_cases hij : i = j
  · exact ⟨f e, by simp [hij], hf e⟩
  · exact ⟨e, by simp [hij], .refl e⟩

theorem find?_modify {α : Type} {f : α → α} {p : α → Bool} (h : ∀ x, p (f x) = p x) (xs : List α)
    (i : Nat) :
    (xs.modify i f).find? p
      = if xs.findIdx? p = some i then (xs.find? p).map f else xs.find? p := by
  induction xs generalizing i with
  | nil => simp
  | cons x xs ih =>
    cases i with
    | zero => cases hx : p x <;> simp [h, hx, List.findIdx?_cons]
    | succ i => cases hx : p x <;> simp [ih, hx, List.findIdx?_cons]

/-- A change shows in the first entity with a name if it is made in the place of that name. -/
theorem entity?_modifyEntity {f : Entity → Entity} (hf : Entity.Keeps f) (m : Model) (i : Nat)
    (name : Text) :
    (m.modifyEntity i f).entity? name
      = if m.placeOf? name = some i then (m.entity? name).map f else m.entity? name :=
  find?_modify (fun e => by rw [(hf e).name]) m.entities i

/-- What a change leaves alone in entities, it leaves alone in the first one with a name. -/
theorem map_entity?_modifyEntity {β : Type} {f : Entity → Entity} (hf : Entity.Keeps f)
    {g : Entity → β} (hg : ∀ e, g (f e) = g e) (m : Model) (i : Nat) (name : Text) :
    ((m.modifyEntity i f).entity? name).map g = (m.entity? name).map g := by
  rw [entity?_modifyEntity hf]
  split
  · rw [Option.map_map]
    congr 1
    funext e
    exact hg e
  · rfl

theorem kindOf?_modifyEntity {f : Entity → Entity} (hf : Entity.Keeps f) (m : Model) (i : Nat)
    (name : Text) : (m.modifyEntity i f).kindOf? name = m.kindOf? name :=
  map_entity?_modifyEntity hf (fun e => congrArg Prod.snd (hf e).key) m i name

theorem placeOf?_modifyEntity {f : Entity → Entity} (hf : Entity.Keeps f) (m : Model) (i : Nat)
    (name : Text) : (m.modifyEntity i f).placeOf? name = m.placeOf? name := by
  have hplace : ∀ n : Model, n.placeOf? name = n.keys.findIdx? fun k => k.1 = name := by
    intro n
    rw [keys, List.findIdx?_map]
    rfl
  rw [hplace, hplace, keys_modifyEntity hf]

theorem entity?_ensureIntent (m : Model) (intent name : Text) :
    (m.ensureIntent intent).1.entity? name = m.entity? name := by
  rcases m.ensureIntent_cases intent with ⟨i, x, h, -⟩ | ⟨h, -⟩
  · rw [h]
  · rw [h]
    rfl

/-- A new entity is the first one with its name if there was none. -/
theorem entity?_ensureEntity (m : Model) (name : Text) (kind : EntityKind) (x : Text) :
    (m.ensureEntity name kind).1.entity? x
      = (m.entity? x).or (if x = name then some { name, kind } else none) := by
  rcases m.ensureEntity_cases name kind with ⟨i, e, h, he, hkey⟩ | ⟨h, -⟩
  · rw [h]
    split
    · next hx =>
      -- the entity is there already, so the name has one
      have hdefined : m.defines x = true := by
        rw [defines_iff]
        exact ⟨e, List.mem_of_getElem? he, (congrArg Prod.fst hkey).trans hx.symm⟩
      obtain ⟨first, hfirst⟩ := Option.isSome_iff_exists.mp hdefined
      rw [hfirst]
      rfl
    · rw [Option.or_none]
  · rw [h, entity?, List.find?_append]
    congr 1
    by_cases hx : x = name
    · simp [hx]
    · simp [hx, Ne.symm hx]

theorem extends_ensureIntent (m : Model) (name : Text) :
    m.Extends (m.ensureIntent name).1 := by
  rcases m.ensureIntent_cases name with ⟨i, x, h, _⟩ | ⟨h, _⟩
  · rw [h]
    exact .refl m
  · rw [h]
    refine { Extends.refl m with intents := ?_ }
    rw [List.map_append]
    exact List.prefix_append _ _

theorem extends_ensureEntity (m : Model) (name : Text) (kind : EntityKind) :
    m.Extends (m.ensureEntity name kind).1 := by
  rcases m.ensureEntity_cases name kind with ⟨i, x, h, _⟩ | ⟨h, _⟩
  · rw [h]
    exact .refl m
  · rw [h]
    refine { Extends.refl m with entities := ?_, grown := ?_ }
    · rw [List.map_append]
      exact List.prefix_append _ _
    · intro i e he
      have hi := (List.getElem?_eq_some_iff.mp he).1
      exact ⟨e, by rw [List.getElem?_append_left hi, he], .refl e⟩

/-- The names that separated definitions speak of are kept apart. -/
theorem extends_references (m : Model) (name : Text) :
    m.Extends { m with references := m.references ++ [name] } :=
  { Extends.refl m with references := List.prefix_append _ _ }

/-- So is what utterances mention. -/
theorem extends_withMentions (m : Model) (mentions : List Mention) :
    m.Extends (m.withMentions mentions) :=
  { Extends.refl m with mentions := List.prefix_append _ _ }

/-- The first entity with a name stays the first one and keeps what it has. -/
theorem Extends.entity? {m n : Model} (h : m.Extends n) {name : Text} {e : Entity}
    (he : m.entity? name = some e) : ∃ f, n.entity? name = some f ∧ e.Extends f := by
  obtain ⟨hname, i, hi, rfl, hbefore⟩ := List.find?_eq_some_iff_getElem.mp he
  obtain ⟨f, hf, hef⟩ := h.grown i m.entities[i] (List.getElem?_eq_getElem hi)
  obtain ⟨hin, rfl⟩ := List.getElem?_eq_some_iff.mp hf
  refine ⟨n.entities[i], List.find?_eq_some_iff_getElem.mpr ⟨?_, i, hin, rfl, ?_⟩, hef⟩
  · rwa [hef.name]
  · intro j hj
    -- so do the entities before it, which have other names
    obtain ⟨g, hg, hgrown⟩ := h.grown j m.entities[j] (List.getElem?_eq_getElem (by omega))
    obtain ⟨hjn, rfl⟩ := List.getElem?_eq_some_iff.mp hg
    rw [hgrown.name]
    exact hbefore j hj

theorem extends_addModifiers (m : Model) (name : Text) (mods : Modifiers) :
    m.Extends (m.addModifiers name mods) := by
  unfold addModifiers
  split
  · exact extends_modifyEntity (Entity.keeps_addModifiers mods) m _
  · exact .refl m

/-- Modifiers leave the rest of an entity alone. -/
theorem map_entity?_addModifiers {β : Type} {g : Entity → β}
    (hg : ∀ e mods, g (e.addModifiers mods) = g e) (m : Model) (name : Text) (mods : Modifiers)
    (x : Text) : ((m.addModifiers name mods).entity? x).map g = (m.entity? x).map g := by
  unfold addModifiers
  split
  · exact map_entity?_modifyEntity (Entity.keeps_addModifiers mods) (fun e => hg e mods) m _ x
  · rfl

/-- A child is defined before it is listed. -/
theorem extends_child (m : Model) (c : Child) :
    m.Extends ((m.ensureEntity c.name c.kind).1.modifyEntity (m.ensureEntity c.name c.kind).2
      (·.addModifiers c.modifiers)) :=
  (extends_ensureEntity m c.name c.kind).trans
    (extends_modifyEntity (Entity.keeps_addModifiers c.modifiers) _ _)

end Model

namespace Draft

/-! ## Lines -/

theorem extends_put (d : Draft) (i : Nat) (kind : EntityKind) (b : Body) :
    d.model.Extends (d.put i kind b).model := by
  cases b with
  | nothing => exact .refl _
  | block => exact .refl _
  | pattern text => exact Model.extends_modifyEntity (Entity.keeps_pattern text) _ _
  | parts names => exact Model.extends_modifyEntity (Entity.keeps_addChildren names) _ _
  | phrases words => exact Model.extends_modifyEntity (Entity.keeps_addPhrases words) _ _

theorem extends_fill (d : Draft) (i : Nat) (kind : EntityKind) (name : Text)
    (body : Option Text) : d.model.Extends (d.fill i kind name body).1.model := by
  unfold fill
  split
  · exact extends_put d i kind _
  · exact .refl _

/-- A definition without a kind adds to the first entity with its name. -/
theorem define_separated_of_some {d : Draft} {name : Text} {i : Nat} {e : Entity}
    (hi : d.model.placeOf? name = some i) (he : d.model.entity? name = some e)
    (modifiers : Modifiers) (body : Option Text) :
    d.define (.separated name modifiers body)
      = fill { d with
          model := { d.model with references := d.model.references ++ [name] }.modifyEntity i
            (·.addModifiers modifiers) } i e.kind name body := by
  have hi' :
      { d.model with references := d.model.references ++ [name] }.placeOf? name = some i := hi
  have he' : { d.model with references := d.model.references ++ [name] }.entity? name = some e := he
  rw [define]
  dsimp only
  rw [hi', he']

/-- If no entity has its name, its modifiers wait for one. -/
theorem define_separated_of_none {d : Draft} {name : Text} (hi : d.model.placeOf? name = none)
    (modifiers : Modifiers) (body : Option Text) :
    d.define (.separated name modifiers body)
      = ({ d with
          model := { d.model with references := d.model.references ++ [name] }
          deferred := d.deferred ++ if modifiers.isEmpty then [] else [(name, modifiers)] },
        none) := by
  have hi' : { d.model with references := d.model.references ++ [name] }.placeOf? name = none := hi
  rw [define]
  dsimp only
  rw [hi']

theorem extends_define (d : Draft) (declared : Definition) :
    d.model.Extends (d.define declared).1.model := by
  cases declared with
  | intent name features =>
    refine (Model.extends_ensureIntent d.model name).trans ?_
    exact Model.extends_modifyIntent (by intro x; rfl) _ _
  | typed kind name modifiers body =>
    refine (Model.extends_ensureEntity d.model name kind).trans ?_
    refine (Model.extends_modifyEntity (Entity.keeps_addModifiers modifiers) _
      (d.model.ensureEntity name kind).2).trans ?_
    exact extends_fill { d with model := _ } _ _ _ _
  | separated name modifiers body =>
    refine (Model.extends_references d.model name).trans ?_
    rcases d.model.place_cases name with ⟨i, e, hi, he, -⟩ | ⟨hi, -⟩
    · rw [define_separated_of_some hi he]
      refine (Model.extends_modifyEntity (Entity.keeps_addModifiers modifiers) _ i).trans ?_
      exact extends_fill { d with model := _ } _ _ _ _
    · rw [define_separated_of_none hi]
      exact .refl _

theorem extends_item (d : Draft) (content : Text) :
    d.model.Extends (d.item content).1.model := by
  have htakes := takes_item d content
  generalize d.item content = result at htakes ⊢
  cases htakes with
  | rejected fault => exact .refl _
  | @utterance i mentions _ _ =>
    exact (Model.extends_withMentions d.model mentions).trans
      (Model.extends_modifyIntent (by intro x; rfl) _ i)
  | @value i _ canonical _ _ _ =>
    exact Model.extends_modifyEntity (Entity.keeps_addValue canonical.trim) _ i
  | @synonym i v _ _ _ => exact Model.extends_modifyEntity (Entity.keeps_addSynonym v content) _ i
  | @child i c _ _ =>
    exact (Model.extends_child d.model c).trans
      (Model.extends_modifyEntity (Entity.keeps_addChildren [c.name]) _ i)
  | @phrases i _ _ => exact Model.extends_modifyEntity (Entity.keeps_addPhrases content.items) _ i

theorem extends_read (d : Draft) (l : Text) : d.model.Extends (d.read l).1.model := by
  unfold read
  cases LineForm.ofLine l with
  | inert => exact .refl _
  | header name => exact Model.extends_ensureIntent d.model name
  | definition result =>
    cases result with
    | error fault => exact .refl _
    | ok declared => exact extends_define { d with block := .outside } declared
  | item content => exact extends_item d content
  | rejected fault => exact .refl _

theorem extends_after (d : Draft) (ls : List Text) : d.model.Extends (d.after ls).model := by
  induction ls generalizing d with
  | nil => exact .refl _
  | cons l ls ih => exact (extends_read d l).trans (ih (d.read l).1)

/-! ## The end of the document -/

/-- Modifiers that waited are added to a model that only grows. -/
theorem extends_foldl_addModifiers (m : Model) (waiting : List (Text × Modifiers)) :
    m.Extends (waiting.foldl (fun m w => m.addModifiers w.1 w.2) m) := by
  induction waiting generalizing m with
  | nil => exact .refl m
  | cons w waiting ih => exact (m.extends_addModifiers w.1 w.2).trans (ih (m.addModifiers w.1 w.2))

theorem map_entity?_foldl_addModifiers {β : Type} {g : Entity → β}
    (hg : ∀ e mods, g (e.addModifiers mods) = g e) (m : Model) (waiting : List (Text × Modifiers))
    (x : Text) :
    ((waiting.foldl (fun m w => m.addModifiers w.1 w.2) m).entity? x).map g
      = (m.entity? x).map g := by
  induction waiting generalizing m with
  | nil => rfl
  | cons w waiting ih => rw [List.foldl_cons, ih, Model.map_entity?_addModifiers hg]

theorem extends_finish (d : Draft) : d.model.Extends d.finish :=
  extends_foldl_addModifiers d.model d.deferred

/-- Modifiers that waited for their entity leave the intents alone. -/
theorem finish_intents (d : Draft) : d.finish.intents = d.model.intents := by
  unfold finish
  generalize d.model = m
  induction d.deferred generalizing m with
  | nil => rfl
  | cons waiting others ih =>
    rw [List.foldl_cons, ih, Model.addModifiers]
    split <;> rfl

end Draft

end LuServer
