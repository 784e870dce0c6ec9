/-
# Well-formed drafts

What holds of a draft after any lines, rejected ones included: names are names and tell
apart what they name, an entity has only what its kind can have, nothing listed is empty or
listed twice, and the block at hand points to something of its kind.

* `Intent.WellFormed`, `Entity.WellFormed`, `Model.WellFormed`: models as they should be.
* `Block.PointsInto`: a block whose places are there.
* `Model.wellFormed_modifyEntity`, `Model.wellFormed_ensureEntity` and the like: the steps in
  which a model grows keep it well-formed.
* `Draft.wellFormed_read`, `Draft.wellFormed_after`: so do a line and a run of lines.
* `Draft.wellFormed_finish`: and the modifiers that waited.
-/
import LuServer.Proofs.Draft.Growth
import LuServer.Proofs.Grammar.Proper
import Mathlib.Data.List.Nodup

namespace LuServer

/-! ## What should hold -/

/-- Texts that are not empty and all different. -/
def Distinct (xs : List Text) : Prop :=
  xs.Nodup ∧ [] ∉ xs

theorem Distinct.nil : Distinct [] :=
  ⟨List.nodup_nil, List.not_mem_nil⟩

theorem Distinct.appendNew {xs ys : List Text} (hxs : Distinct xs) (hys : [] ∉ ys) :
    Distinct (appendNew xs ys) :=
  ⟨nodup_appendNew hxs.1, by simpa using ⟨hxs.2, hys⟩⟩

/-- An intent has a name, which is no question, utterances that are not empty, and
features that are all different. -/
structure Intent.WellFormed (x : Intent) : Prop where
  name : x.name ≠ []
  noQuestion : x.name.head? ≠ some '?'
  utterances : [] ∉ x.utterances
  features : Distinct x.features

/-- An entity has a proper name and only what its kind can have, with nothing empty and
nothing listed twice. -/
structure Entity.WellFormed (e : Entity) : Prop where
  name : Name.isValid e.name = true
  roles : Distinct e.roles
  features : Distinct e.features
  children : Distinct e.children
  phrases : Distinct e.phrases
  values : ∀ v ∈ e.values, v.canonical ≠ [] ∧ [] ∉ v.synonyms
  ofChildren : e.children ≠ [] → e.kind = .ml ∨ e.kind = .composite
  ofValues : e.values ≠ [] → e.kind = .list
  ofPhrases : e.phrases ≠ [] → e.kind = .phraseList
  ofPattern : e.pattern ≠ none → e.kind = .regex

/-- Intents and entities are well-formed, told apart by their names, or names and kinds,
and the children of ml entities are entities. -/
structure Model.WellFormed (m : Model) : Prop where
  intents : ∀ x ∈ m.intents, x.WellFormed
  intentNames : (m.intents.map Intent.name).Nodup
  entities : ∀ e ∈ m.entities, e.WellFormed
  entityKeys : (m.entities.map Entity.key).Nodup
  labels : Distinct m.labels
  patternReferences : ∀ r ∈ m.patternReferences, r.name ≠ [] ∧ r.role ≠ some []
  childrenDefined : ∀ e ∈ m.entities, e.kind = .ml → ∀ c ∈ e.children,
    ∃ child ∈ m.entities, child.name = c

/-- The places of a block are there, and are what the block takes them for. -/
def Block.PointsInto (m : Model) : Block → Prop
  | .outside => True
  | .intent i => ∃ x, m.intents[i]? = some x
  | .list i value =>
    ∃ e, m.entities[i]? = some e ∧ e.kind = .list ∧ ∀ v, value = some v → v < e.values.length
  | .ml i => ∃ e, m.entities[i]? = some e ∧ e.kind = .ml
  | .phraseList i => ∃ e, m.entities[i]? = some e ∧ e.kind = .phraseList

/-- Model and block are well-formed, and what waits for an entity is proper. -/
structure Draft.WellFormed (d : Draft) : Prop where
  model : d.model.WellFormed
  block : d.block.PointsInto d.model
  deferred : ∀ waiting ∈ d.deferred, waiting.2.Proper

/-! ## Entities that grow -/

namespace Entity

theorem WellFormed.addModifiers {e : Entity} (he : e.WellFormed) {mods : Modifiers}
    (hmods : mods.Proper) : (e.addModifiers mods).WellFormed :=
  { he with
    roles := he.roles.appendNew hmods.1
    features := he.features.appendNew hmods.2 }

theorem WellFormed.addChildren {e : Entity} (he : e.WellFormed) {names : List Text}
    (hnames : [] ∉ names) (hkind : e.kind = .ml ∨ e.kind = .composite) :
    (e.addChildren names).WellFormed :=
  { he with
    children := he.children.appendNew hnames
    ofChildren := fun _ => hkind }

theorem WellFormed.addPhrases {e : Entity} (he : e.WellFormed) {words : List Text}
    (hwords : [] ∉ words) (hkind : e.kind = .phraseList) : (e.addPhrases words).WellFormed :=
  { he with
    phrases := he.phrases.appendNew hwords
    ofPhrases := fun _ => hkind }

theorem WellFormed.addPattern {e : Entity} (he : e.WellFormed) (text : Text)
    (hkind : e.kind = .regex) : ({ e with pattern := some text } : Entity).WellFormed :=
  { he with ofPattern := fun _ => hkind }

theorem WellFormed.addValue {e : Entity} (he : e.WellFormed) {canonical : Text}
    (hcanonical : canonical ≠ []) (hkind : e.kind = .list) :
    (e.addValue canonical).WellFormed :=
  { he with
    values := by
      intro v hv
      rcases List.mem_append.mp hv with hv | hv
      · exact he.values v hv
      · obtain rfl := List.mem_singleton.mp hv
        exact ⟨hcanonical, List.not_mem_nil⟩
    ofValues := fun _ => hkind }

theorem WellFormed.addSynonym {e : Entity} (he : e.WellFormed) (v : Nat) {synonym : Text}
    (hsynonym : synonym ≠ []) (hkind : e.kind = .list) : (e.addSynonym v synonym).WellFormed :=
  { he with
    values := by
      intro w hw
      obtain ⟨j, hj⟩ := List.mem_iff_getElem?.mp hw
      simp only [Entity.addSynonym, List.getElem?_modify, Option.map_eq_map,
        Option.map_eq_some_iff] at hj
      obtain ⟨old, hold, rfl⟩ := hj
      have hproper := he.values old (List.mem_of_getElem? hold)
      by_cases hvj : v = j
      · rw [if_pos hvj]
        exact ⟨hproper.1, by simpa using ⟨hproper.2, hsynonym⟩⟩
      · rw [if_neg hvj]
        exact hproper
    ofValues := fun _ => hkind }

/-- A new entity has nothing yet. -/
theorem wellFormed_new {name : Text} (hname : Name.isValid name = true) (kind : EntityKind) :
    ({ name, kind } : Entity).WellFormed where
  name := hname
  roles := .nil
  features := .nil
  children := .nil
  phrases := .nil
  values := by simp
  ofChildren := by simp
  ofValues := by simp
  ofPhrases := by simp
  ofPattern := by simp

end Entity

/-! ## Models that grow -/

namespace Model

/-- What holds of the members of a list holds after a change of one of them that keeps
it. -/
theorem forall_mem_modify {α : Type} {p : α → Prop} {f : α → α} {xs : List α} {i : Nat}
    (h : ∀ x ∈ xs, p x) (hf : ∀ x, xs[i]? = some x → p (f x)) : ∀ x ∈ xs.modify i f, p x := by
  intro x hx
  obtain ⟨j, hj⟩ := List.mem_iff_getElem?.mp hx
  rw [List.getElem?_modify, Option.map_eq_map, Option.map_eq_some_iff] at hj
  obtain ⟨old, hold, rfl⟩ := hj
  by_cases hij : i = j
  · subst hij
    rw [if_pos rfl]
    exact hf old hold
  · rw [if_neg hij]
    exact h old (List.mem_of_getElem? hold)

theorem nodup_map_append {α β : Type} {g : α → β} {xs : List α} {y : α}
    (hxs : (xs.map g).Nodup) (hy : ∀ x ∈ xs, g x ≠ g y) : ((xs ++ [y]).map g).Nodup := by
  rw [List.map_append, List.nodup_append]
  refine ⟨hxs, List.nodup_singleton _, ?_⟩
  intro a ha b hb
  obtain ⟨x, hx, rfl⟩ := List.mem_map.mp ha
  rw [List.mem_singleton.mp hb]
  exact hy x hx

/-- An entity of a name that is there stays there. -/
theorem exists_named_of_extends {m n : Model} (h : m.Extends n) {name : Text}
    (hm : ∃ e ∈ m.entities, e.name = name) : ∃ e ∈ n.entities, e.name = name := by
  obtain ⟨e, he, rfl⟩ := hm
  obtain ⟨i, hi⟩ := List.mem_iff_getElem?.mp he
  obtain ⟨f, hf, hkey, _⟩ := h.grown i e hi
  exact ⟨f, List.mem_of_getElem? hf, congrArg Prod.fst hkey⟩

theorem wellFormed_modifyIntent {m : Model} (hm : m.WellFormed) {f : Intent → Intent}
    (hname : ∀ x, (f x).name = x.name) (hf : ∀ x, x.WellFormed → (f x).WellFormed) (i : Nat) :
    (m.modifyIntent i f).WellFormed :=
  { hm with
    intents := forall_mem_modify hm.intents fun x hx =>
      hf x (hm.intents x (List.mem_of_getElem? hx))
    intentNames := by
      rw [modifyIntent, map_modify hname]
      exact hm.intentNames }

/-- An entity may be changed as long as it stays well-formed and its children, if it is an
ml entity, are defined. -/
theorem wellFormed_modifyEntity {m : Model} (hm : m.WellFormed) {f : Entity → Entity}
    (hkeeps : Entity.Keeps f) {i : Nat}
    (hf : ∀ e, m.entities[i]? = some e → (f e).WellFormed ∧
      (e.kind = .ml → ∀ c ∈ (f e).children, ∃ child ∈ m.entities, child.name = c)) :
    (m.modifyEntity i f).WellFormed :=
  { hm with
    entities := forall_mem_modify hm.entities fun e he => (hf e he).1
    entityKeys := by
      rw [modifyEntity, map_modify fun e => (hkeeps e).1]
      exact hm.entityKeys
    childrenDefined := by
      have hextends := extends_modifyEntity hkeeps m i
      refine forall_mem_modify ?_ ?_
      · intro e he hkind c hc
        exact exists_named_of_extends hextends (hm.childrenDefined e he hkind c hc)
      · intro e he hkind c hc
        have hkind' : e.kind = .ml := (congrArg Prod.snd (hkeeps e).1).symm.trans hkind
        exact exists_named_of_extends hextends ((hf e he).2 hkind' c hc) }

/-- A change that leaves the children alone only has to keep the entity well-formed. -/
theorem wellFormed_modifyEntity_of_children {m : Model} (hm : m.WellFormed)
    {f : Entity → Entity} (hkeeps : Entity.Keeps f) (hchildren : ∀ e, (f e).children = e.children)
    {i : Nat} (hf : ∀ e, m.entities[i]? = some e → e.WellFormed → (f e).WellFormed) :
    (m.modifyEntity i f).WellFormed := by
  refine wellFormed_modifyEntity hm hkeeps ?_
  intro e he
  have hmem := List.mem_of_getElem? he
  refine ⟨hf e he (hm.entities e hmem), ?_⟩
  rw [hchildren]
  exact hm.childrenDefined e hmem

theorem wellFormed_addModifiers {m : Model} (hm : m.WellFormed) {mods : Modifiers}
    (hmods : mods.Proper) (i : Nat) : (m.modifyEntity i (·.addModifiers mods)).WellFormed :=
  wellFormed_modifyEntity_of_children hm (Entity.keeps_addModifiers mods) (fun _ => rfl)
    fun _ _ he => he.addModifiers hmods

theorem wellFormed_ensureIntent {m : Model} (hm : m.WellFormed) {name : Text}
    (hname : name ≠ []) (hquestion : name.head? ≠ some '?') :
    (m.ensureIntent name).1.WellFormed := by
  rcases m.ensureIntent_cases name with ⟨i, x, h, -⟩ | ⟨h, hfresh⟩
  · rw [h]
    exact hm
  · rw [h]
    exact
      { hm with
        intents := by
          intro x hx
          rcases List.mem_append.mp hx with hx | hx
          · exact hm.intents x hx
          · obtain rfl := List.mem_singleton.mp hx
            exact ⟨hname, hquestion, List.not_mem_nil, .nil⟩
        intentNames := nodup_map_append hm.intentNames hfresh }

theorem wellFormed_ensureEntity {m : Model} (hm : m.WellFormed) {name : Text}
    (hname : Name.isValid name = true) (kind : EntityKind) :
    (m.ensureEntity name kind).1.WellFormed := by
  have hextends := extends_ensureEntity m name kind
  rcases m.ensureEntity_cases name kind with ⟨i, e, h, -⟩ | ⟨h, hfresh⟩
  · rw [h]
    exact hm
  · rw [h] at hextends ⊢
    exact
      { hm with
        entities := by
          intro e he
          rcases List.mem_append.mp he with he | he
          · exact hm.entities e he
          · obtain rfl := List.mem_singleton.mp he
            exact Entity.wellFormed_new hname kind
        entityKeys := nodup_map_append hm.entityKeys hfresh
        childrenDefined := by
          intro e he hkind c hc
          rcases List.mem_append.mp he with he | he
          · exact exists_named_of_extends hextends (hm.childrenDefined e he hkind c hc)
          · obtain rfl := List.mem_singleton.mp he
            cases hc }

/-- The place that a look-up gives is one of an entity with that name and kind. -/
theorem getElem?_ensureEntity (m : Model) (name : Text) (kind : EntityKind) :
    ∃ e, (m.ensureEntity name kind).1.entities[(m.ensureEntity name kind).2]? = some e ∧
      e.key = (name, kind) := by
  rcases m.ensureEntity_cases name kind with ⟨i, e, h, he, hkey⟩ | ⟨h, -⟩
  · rw [h]
    exact ⟨e, he, hkey⟩
  · rw [h]
    exact ⟨{ name, kind }, by simp, rfl⟩

theorem getElem?_ensureIntent (m : Model) (name : Text) :
    ∃ x, (m.ensureIntent name).1.intents[(m.ensureIntent name).2]? = some x ∧ x.name = name := by
  rcases m.ensureIntent_cases name with ⟨i, x, h, hx, hname⟩ | ⟨h, -⟩
  · rw [h]
    exact ⟨x, hx, hname⟩
  · rw [h]
    exact ⟨{ name }, by simp, rfl⟩

/-- An utterance that can be read leaves the model well-formed. -/
theorem wellFormed_utterance {m : Model} (hm : m.WellFormed) {mentions : List Mention}
    (hmentions : ∀ x ∈ mentions, x.Proper) {content : Text} (hcontent : content ≠ []) (i : Nat) :
    ((m.withMentions mentions).modifyIntent i (·.addUtterance content)).WellFormed := by
  refine wellFormed_modifyIntent ?_ (by intro x; rfl) ?_ i
  · exact
      { hm with
        labels := hm.labels.appendNew (Mention.ne_nil_of_mem_labels hmentions)
        patternReferences := by
          intro r hr
          rcases List.mem_append.mp hr with hr | hr
          · exact hm.patternReferences r hr
          · exact Mention.proper_of_mem_references hmentions r hr }
  · intro x hx
    exact { hx with utterances := by simpa [Intent.addUtterance] using ⟨hx.utterances, hcontent⟩ }

/-- So does a child of an ml entity, which is among the entities by the time it is listed. -/
theorem wellFormed_child {m : Model} (hm : m.WellFormed) {c : Child}
    (hname : Name.isValid c.name = true) (hmods : c.modifiers.Proper) {i : Nat} {parent : Entity}
    (hparent : m.entities[i]? = some parent) (hkind : parent.kind = .ml) :
    (((m.ensureEntity c.name c.kind).1.modifyEntity (m.ensureEntity c.name c.kind).2
      (·.addModifiers c.modifiers)).modifyEntity i (·.addChildren [c.name])).WellFormed := by
  have hgrown := wellFormed_addModifiers (wellFormed_ensureEntity hm hname c.kind) hmods
    (m.ensureEntity c.name c.kind).2
  refine wellFormed_modifyEntity hgrown (Entity.keeps_addChildren [c.name]) ?_
  intro e he
  have hmem := List.mem_of_getElem? he
  obtain ⟨f, hf, hkey, -⟩ := (extends_child m c).grown i parent hparent
  obtain rfl : f = e := Option.some.inj (hf.symm.trans he)
  have hkind' : f.kind = .ml := (congrArg Prod.snd hkey).trans hkind
  refine ⟨(hgrown.entities f hmem).addChildren ?_ (.inl hkind'), ?_⟩
  · simpa using Name.ne_nil_of_isValid hname
  · intro _ name hmember
    rcases mem_appendNew.mp hmember with hold | hnew
    · exact hgrown.childrenDefined f hmem hkind' name hold
    · obtain rfl := List.mem_singleton.mp hnew
      obtain ⟨child, hchild, hchildKey⟩ := m.getElem?_ensureEntity c.name c.kind
      exact exists_named_of_extends
        (extends_modifyEntity (Entity.keeps_addModifiers c.modifiers) _ _)
        ⟨child, List.mem_of_getElem? hchild, congrArg Prod.fst hchildKey⟩

end Model

/-- A block that points into a model points into what grows from it. -/
theorem Block.PointsInto.extends {m n : Model} (h : m.Extends n) {b : Block}
    (hb : b.PointsInto m) : b.PointsInto n := by
  cases b with
  | outside => trivial
  | intent i =>
    obtain ⟨x, hx⟩ := hb
    have hlength := h.intents.length_le
    rw [List.length_map, List.length_map] at hlength
    have hi := (List.getElem?_eq_some_iff.mp hx).1
    exact ⟨n.intents[i], List.getElem?_eq_getElem (by omega)⟩
  | list i value =>
    obtain ⟨e, he, hkind, hvalue⟩ := hb
    obtain ⟨f, hf, hkey, hvalues⟩ := h.grown i e he
    refine ⟨f, hf, (congrArg Prod.snd hkey).trans hkind, ?_⟩
    intro v hv
    exact Nat.lt_of_lt_of_le (hvalue v hv) hvalues
  | ml i =>
    obtain ⟨e, he, hkind⟩ := hb
    obtain ⟨f, hf, hkey, -⟩ := h.grown i e he
    exact ⟨f, hf, (congrArg Prod.snd hkey).trans hkind⟩
  | phraseList i =>
    obtain ⟨e, he, hkind⟩ := hb
    obtain ⟨f, hf, hkey, -⟩ := h.grown i e he
    exact ⟨f, hf, (congrArg Prod.snd hkey).trans hkind⟩

/-! ## Lines -/

namespace Draft

theorem wellFormed_start (culture : Text) : (start culture).WellFormed where
  model :=
    { intents := by simp [start]
      intentNames := by simp [start]
      entities := by simp [start]
      entityKeys := by simp [start]
      labels := .nil
      patternReferences := by simp [start]
      childrenDefined := by simp [start] }
  block := trivial
  deferred := by simp [start]

/-- A body that fits its entity leaves the draft well-formed. -/
theorem wellFormed_put {d : Draft} (hd : d.WellFormed) {i : Nat} {e : Entity}
    (he : d.model.entities[i]? = some e) {b : Body} (hb : b.Fits e.kind) :
    (d.put i e.kind b).WellFormed := by
  have hextends := extends_put d i e.kind b
  have hunique {f : Entity} (hf : d.model.entities[i]? = some f) : f = e :=
    Option.some.inj (hf.symm.trans he)
  cases b with
  | nothing => exact hd
  | block =>
    refine { hd with block := ?_ }
    rcases hb with hkind | hkind | hkind
    · rw [hkind]
      exact ⟨e, he, hkind⟩
    · rw [hkind]
      exact ⟨e, he, hkind, fun v hv => nomatch hv⟩
    · rw [hkind]
      exact ⟨e, he, hkind⟩
  | pattern text =>
    refine ⟨?_, hd.block.extends hextends, hd.deferred⟩
    refine Model.wellFormed_modifyEntity_of_children hd.model (Entity.keeps_pattern text)
      (by intro f; rfl) ?_
    intro f hf hwf
    exact hwf.addPattern text (hunique hf ▸ hb)
  | parts names =>
    refine ⟨?_, hd.block.extends hextends, hd.deferred⟩
    refine Model.wellFormed_modifyEntity hd.model (Entity.keeps_addChildren names) ?_
    intro f hf
    obtain rfl := hunique hf
    refine ⟨(hd.model.entities f (List.mem_of_getElem? hf)).addChildren hb.2 (.inr hb.1), ?_⟩
    intro hkind
    rw [hb.1] at hkind
    cases hkind
  | phrases words =>
    refine ⟨?_, hd.block.extends hextends, hd.deferred⟩
    refine Model.wellFormed_modifyEntity_of_children hd.model (Entity.keeps_addPhrases words)
      (by intro f; rfl) ?_
    intro f hf hwf
    exact hwf.addPhrases hb.2 (hunique hf ▸ hb.1)

theorem wellFormed_fill {d : Draft} (hd : d.WellFormed) {i : Nat} {e : Entity}
    (he : d.model.entities[i]? = some e) (name : Text) (body : Option Text) :
    (d.fill i e.kind name body).1.WellFormed := by
  unfold fill
  split
  · next b hb => exact wellFormed_put hd he (Body.fits_of_read hb)
  · exact hd

/-- So do modifiers and a body that are added to an entity which is there. -/
theorem wellFormed_fill_addModifiers {d : Draft} (hdeferred : ∀ w ∈ d.deferred, w.2.Proper)
    (hblock : d.block = .outside) {m : Model} (hm : m.WellFormed) {i : Nat} {e : Entity}
    (he : m.entities[i]? = some e) {mods : Modifiers} (hmods : mods.Proper) (name : Text)
    (body : Option Text) :
    (fill { d with model := m.modifyEntity i (·.addModifiers mods) } i e.kind name
      body).1.WellFormed := by
  obtain ⟨f, hf, hkey, -⟩ :=
    (Model.extends_modifyEntity (Entity.keeps_addModifiers mods) m i).grown i e he
  have hkind : f.kind = e.kind := congrArg Prod.snd hkey
  have hgrown : ({ d with model := m.modifyEntity i (·.addModifiers mods) } : Draft).WellFormed :=
    ⟨Model.wellFormed_addModifiers hm hmods i, by dsimp only; rw [hblock]; trivial, hdeferred⟩
  rw [← hkind]
  exact wellFormed_fill hgrown hf name body

/-- A definition leaves the draft well-formed, also one whose body is rejected. -/
theorem wellFormed_define {d : Draft} (hd : d.WellFormed) (hblock : d.block = .outside)
    {declared : Definition} (hdeclared : declared.Proper) :
    (d.define declared).1.WellFormed := by
  have houtside {m : Model} : d.block.PointsInto m := by
    rw [hblock]
    trivial
  cases declared with
  | intent name features =>
    have hname := hdeclared.1
    -- a question mark is no character of names
    have hquestion : name.head? ≠ some '?' := by
      intro hhead
      exact absurd (Name.isNameChar_head hname hhead) (by decide)
    refine ⟨?_, houtside, hd.deferred⟩
    refine Model.wellFormed_modifyIntent
      (Model.wellFormed_ensureIntent hd.model (Name.ne_nil_of_isValid hname) hquestion)
      (by intro x; rfl) ?_ _
    intro x hx
    exact { hx with features := hx.features.appendNew hdeclared.2 }
  | typed kind name modifiers body =>
    obtain ⟨e, he, hkey⟩ := d.model.getElem?_ensureEntity name kind
    obtain rfl : e.kind = kind := congrArg Prod.snd hkey
    exact wellFormed_fill_addModifiers hd.deferred hblock
      (Model.wellFormed_ensureEntity hd.model hdeclared.1 e.kind) he hdeclared.2 name _
  | separated name modifiers body =>
    have hreferences :
        ({ d.model with references := d.model.references ++ [name] } : Model).WellFormed :=
      { hd.model with }
    rcases d.model.place_cases name with ⟨i, e, hi, hfirst, he, -⟩ | ⟨hi, -⟩
    · rw [define_separated_of_some hi hfirst]
      exact wellFormed_fill_addModifiers hd.deferred hblock hreferences he hdeclared.2 name body
    · rw [define_separated_of_none hi]
      refine ⟨hreferences, houtside, ?_⟩
      intro waiting hwaiting
      rcases List.mem_append.mp hwaiting with hwaiting | hwaiting
      · exact hd.deferred waiting hwaiting
      · split at hwaiting
        · cases hwaiting
        · obtain rfl := List.mem_singleton.mp hwaiting
          exact hdeclared.2

theorem valueCount_eq {d : Draft} {i : Nat} {e : Entity} (he : d.model.entities[i]? = some e) :
    d.valueCount i = e.values.length := by
  rw [valueCount, he]
  rfl

/-- A bullet leaves a well-formed draft well-formed: it adds to what the block points to. -/
theorem wellFormed_item {d : Draft} (hd : d.WellFormed) (content : Text) :
    (d.item content).1.WellFormed := by
  have hpoints := hd.block
  have hextends := extends_item d content
  have htakes := takes_item d content
  generalize d.item content = result at hextends htakes ⊢
  cases htakes with
  | rejected fault => exact hd
  | @utterance i mentions _ hmentions =>
    obtain ⟨hne, hproper⟩ := Mention.proper_of_all hmentions
    exact ⟨Model.wellFormed_utterance hd.model hproper hne i, hpoints.extends hextends, hd.deferred⟩
  | @value i v canonical hblock _ hcanonical =>
    rw [hblock] at hpoints
    obtain ⟨e, he, hkind, -⟩ := hpoints
    refine ⟨?_, ?_, hd.deferred⟩
    · refine Model.wellFormed_modifyEntity_of_children hd.model
        (Entity.keeps_addValue canonical.trim) (by intro f; rfl) ?_
      intro f hf hwf
      obtain rfl : f = e := Option.some.inj (hf.symm.trans he)
      exact hwf.addValue hcanonical hkind
    · -- the new value is the last one
      refine ⟨e.addValue canonical.trim, by simp [Model.modifyEntity, he], hkind, ?_⟩
      intro w hw
      rw [← Option.some.inj hw, valueCount_eq he]
      simp [Entity.addValue]
  | @synonym i v hblock _ hcontent =>
    refine ⟨?_, hpoints.extends hextends, hd.deferred⟩
    rw [hblock] at hpoints
    obtain ⟨e, he, hkind, -⟩ := hpoints
    refine Model.wellFormed_modifyEntity_of_children hd.model (Entity.keeps_addSynonym v content)
      (by intro f; rfl) ?_
    intro f hf hwf
    obtain rfl : f = e := Option.some.inj (hf.symm.trans he)
    exact hwf.addSynonym v hcontent hkind
  | @child i c hblock hchild =>
    refine ⟨?_, hpoints.extends hextends, hd.deferred⟩
    rw [hblock] at hpoints
    obtain ⟨parent, hparent, hkind⟩ := hpoints
    obtain ⟨hname, hmods⟩ := Child.proper_of_read hchild
    exact Model.wellFormed_child hd.model hname hmods hparent hkind
  | @phrases i hblock _ =>
    refine ⟨?_, hpoints.extends hextends, hd.deferred⟩
    rw [hblock] at hpoints
    obtain ⟨e, he, hkind⟩ := hpoints
    refine Model.wellFormed_modifyEntity_of_children hd.model
      (Entity.keeps_addPhrases content.items) (by intro f; rfl) ?_
    intro f hf hwf
    obtain rfl : f = e := Option.some.inj (hf.symm.trans he)
    exact hwf.addPhrases (Text.nil_notMem_items content) hkind

/-- A line leaves a well-formed draft well-formed. -/
theorem wellFormed_read {d : Draft} (hd : d.WellFormed) (l : Text) :
    (d.read l).1.WellFormed := by
  unfold read
  cases hform : LineForm.ofLine l with
  | inert => exact hd
  | header name =>
    obtain ⟨-, -, hname, hquestion⟩ := Line.of_header hform
    obtain ⟨x, hx, -⟩ := d.model.getElem?_ensureIntent name
    exact ⟨Model.wellFormed_ensureIntent hd.model hname hquestion, ⟨x, hx⟩, hd.deferred⟩
  | definition result =>
    have hended : ({ d with block := .outside } : Draft).WellFormed := { hd with block := trivial }
    cases result with
    | error fault => exact hended
    | ok declared => exact wellFormed_define hended rfl (LineForm.proper_of_definition hform)
  | item content => exact wellFormed_item hd content
  | rejected fault => exact hd

/-- So do any lines. -/
theorem wellFormed_after {d : Draft} (hd : d.WellFormed) (ls : List Text) :
    (d.after ls).WellFormed := by
  induction ls generalizing d with
  | nil => exact hd
  | cons l ls ih => exact ih (wellFormed_read hd l)

/-- Modifiers that waited leave the model well-formed. -/
theorem wellFormed_foldl_addModifiers {m : Model} (hm : m.WellFormed)
    {waiting : List (Text × Modifiers)} (hwaiting : ∀ w ∈ waiting, w.2.Proper) :
    (waiting.foldl (fun m w => m.addModifiers w.1 w.2) m).WellFormed := by
  induction waiting generalizing m with
  | nil => exact hm
  | cons w waiting ih =>
    rw [List.foldl_cons]
    refine ih ?_ fun v hv => hwaiting v (List.mem_cons_of_mem w hv)
    unfold Model.addModifiers
    split
    · next i _ => exact Model.wellFormed_addModifiers hm (hwaiting w List.mem_cons_self) i
    · exact hm

theorem wellFormed_finish {d : Draft} (hd : d.WellFormed) : d.finish.WellFormed :=
  wellFormed_foldl_addModifiers hd.model hd.deferred

end Draft

end LuServer
