/-
# Bullets belong to their section

The utterances of an intent are the bullets under the headers with its name, and the values
of a list are those under the lines that open its block, all in the order of the document.
The draft's block is about the last section; each line keeps this and adds its bullet to the
rows of that section's name only.

* `Holds`: a table whose rows hold what their keys have.
* `Block.HeadedBy`, `Block.Follows`: a block that is about the last section.
* `Draft.Attributed`: every bullet so far is where it belongs.
* `Draft.attributed_define`, `Draft.attributed_takes`: definitions and bullets keep this.
* `Draft.attributed_read`, `Draft.attributed_after`: so do a line and any lines.
* `bullets_attributed`: so it is in the model of a text.
-/
import LuServer.Proofs.Draft.Isolation
import LuServer.Proofs.Draft.Sections
import LuServer.Proofs.Draft.WellFormed

namespace LuServer

/-! ## Tables -/

/-- Each row holds what its key has, and no other key has anything. -/
structure Holds {κ ν : Type} (rows : List (κ × List ν)) (under : κ → List ν) : Prop where
  of_row : ∀ r ∈ rows, r.2 = under r.1
  row_of : ∀ k, under k ≠ [] → k ∈ rows.map Prod.fst

namespace Holds

variable {κ ν : Type} {rows : List (κ × List ν)} {under : κ → List ν}

/-- A new key has nothing yet. -/
theorem append (h : Holds rows under) {k : κ} (hk : k ∉ rows.map Prod.fst) :
    Holds (rows ++ [(k, [])]) under where
  of_row := by
    intro r hr
    rcases List.mem_append.mp hr with hr | hr
    · exact h.of_row r hr
    · obtain rfl := List.mem_singleton.mp hr
      exact (not_not.mp (mt (h.row_of k) hk)).symm
  row_of := by
    intro k' hk'
    rw [List.map_append]
    exact List.mem_append_left _ (h.row_of k' hk')

/-- The row of one key changes with what the key has. -/
theorem change (h : Holds rows under) (hnodup : (rows.map Prod.fst).Nodup)
    {rows' : List (κ × List ν)} {under' : κ → List ν}
    (hkeys : rows'.map Prod.fst = rows.map Prod.fst) {i : Nat} {k : κ}
    (hi : rows'[i]? = some (k, under' k))
    (hrows : ∀ j, j ≠ i → rows'[j]? = rows[j]?) (hunder : ∀ k', k' ≠ k → under' k' = under k') :
    Holds rows' under' where
  of_row := by
    intro r hr
    obtain ⟨j, hj⟩ := List.mem_iff_getElem?.mp hr
    by_cases hij : j = i
    · subst hij
      obtain rfl := Option.some.inj (hi.symm.trans hj)
      rfl
    · have hne : r.1 ≠ k := by
        -- a key stands in one row only
        intro hsame
        have hrow : (rows'.map Prod.fst)[j]? = (rows'.map Prod.fst)[i]? := by
          simp [hi, hj, hsame]
        have hlt : j < (rows'.map Prod.fst).length := by
          rw [List.length_map]
          exact (List.getElem?_eq_some_iff.mp hj).1
        exact hij ((List.getElem?_inj hlt (hkeys ▸ hnodup)).mp hrow)
      rw [hrows j hij] at hj
      rw [hunder r.1 hne, h.of_row r (List.mem_of_getElem? hj)]
  row_of := by
    intro k' hk'
    by_cases hkk : k' = k
    · subst hkk
      exact List.mem_map.mpr ⟨_, List.mem_of_getElem? hi, rfl⟩
    · rw [hunder k' hkk] at hk'
      rw [hkeys]
      exact h.row_of k' hk'

end Holds

namespace Model

/-- The utterances of the intents. -/
def utteranceRows (m : Model) : List (Text × List Text) :=
  m.intents.map fun x => (x.name, x.utterances)

/-- The values of the entities. -/
def valueRows (m : Model) : List ((Text × EntityKind) × List ListValue) :=
  m.entities.map fun e => (e.key, e.values)

@[simp] theorem map_utteranceRows (m : Model) :
    m.utteranceRows.map Prod.fst = m.intents.map Intent.name := by
  simp [utteranceRows]

@[simp] theorem map_valueRows (m : Model) :
    m.valueRows.map Prod.fst = m.entities.map Entity.key := by
  simp [valueRows]

theorem getElem?_utteranceRows {m : Model} {i : Nat} {x : Intent} (hx : m.intents[i]? = some x) :
    m.utteranceRows[i]? = some (x.name, x.utterances) := by
  simp [utteranceRows, hx]

theorem getElem?_valueRows {m : Model} {i : Nat} {e : Entity} (he : m.entities[i]? = some e) :
    m.valueRows[i]? = some (e.key, e.values) := by
  simp [valueRows, he]

/-- An intent gets more of what its name has. -/
theorem holds_modifyIntent {m : Model} {under under' : Text → List Text}
    (h : Holds m.utteranceRows under) (hnodup : (m.intents.map Intent.name).Nodup) {i : Nat}
    {x : Intent} (hx : m.intents[i]? = some x) {f : Intent → Intent}
    (hname : ∀ x, (f x).name = x.name) (hf : (f x).utterances = under' x.name)
    (hunder : ∀ name, name ≠ x.name → under' name = under name) :
    Holds (m.modifyIntent i f).utteranceRows under' := by
  refine h.change (i := i) (by simpa using hnodup) ?_ ?_ ?_ hunder
  · rw [map_utteranceRows, map_utteranceRows, modifyIntent, map_modify hname]
  · simp [utteranceRows, modifyIntent, hx, hname, hf]
  · intro j hj
    simp [utteranceRows, modifyIntent, Ne.symm hj]

/-- An entity gets more of what its name and kind have. -/
theorem holds_modifyEntity {m : Model} {under under' : Text × EntityKind → List ListValue}
    (h : Holds m.valueRows under) (hnodup : (m.entities.map Entity.key).Nodup) {i : Nat}
    {e : Entity} (he : m.entities[i]? = some e) {f : Entity → Entity}
    (hkey : ∀ e, (f e).key = e.key) (hf : (f e).values = under' e.key)
    (hunder : ∀ key, key ≠ e.key → under' key = under key) :
    Holds (m.modifyEntity i f).valueRows under' := by
  refine h.change (i := i) (by simpa using hnodup) ?_ ?_ ?_ hunder
  · rw [map_valueRows, map_valueRows, modifyEntity, map_modify hkey]
  · simp [valueRows, modifyEntity, he, hkey, hf]
  · intro j hj
    simp [valueRows, modifyEntity, Ne.symm hj]

theorem utteranceRows_modifyIntent {f : Intent → Intent}
    (hf : ∀ x, (f x).name = x.name ∧ (f x).utterances = x.utterances) (m : Model) (i : Nat) :
    (m.modifyIntent i f).utteranceRows = m.utteranceRows :=
  map_modify (fun x => Prod.ext (hf x).1 (hf x).2) _ _

theorem valueRows_modifyEntity {f : Entity → Entity}
    (hf : ∀ e, (f e).key = e.key ∧ (f e).values = e.values) (m : Model) (i : Nat) :
    (m.modifyEntity i f).valueRows = m.valueRows :=
  map_modify (fun e => Prod.ext (hf e).1 (hf e).2) _ _

theorem valueRows_addModifiers (mods : Modifiers) (m : Model) (i : Nat) :
    (m.modifyEntity i (·.addModifiers mods)).valueRows = m.valueRows :=
  valueRows_modifyEntity (f := (·.addModifiers mods)) (fun _ => ⟨rfl, rfl⟩) m i

theorem holds_ensureIntent {m : Model} {under : Text → List Text}
    (h : Holds m.utteranceRows under) (name : Text) :
    Holds (m.ensureIntent name).1.utteranceRows under := by
  rcases m.ensureIntent_cases name with ⟨i, x, hsame, -⟩ | ⟨hnew, hfresh⟩
  · rw [hsame]
    exact h
  · rw [hnew, utteranceRows, List.map_append]
    refine h.append ?_
    rw [map_utteranceRows]
    intro hmem
    obtain ⟨x, hx, hname⟩ := List.mem_map.mp hmem
    exact hfresh x hx hname

theorem holds_ensureEntity {m : Model} {under : Text × EntityKind → List ListValue}
    (h : Holds m.valueRows under) (name : Text) (kind : EntityKind) :
    Holds (m.ensureEntity name kind).1.valueRows under := by
  rcases m.ensureEntity_cases name kind with ⟨i, e, hsame, -⟩ | ⟨hnew, hfresh⟩
  · rw [hsame]
    exact h
  · rw [hnew, valueRows, List.map_append]
    refine h.append ?_
    rw [map_valueRows]
    intro hmem
    obtain ⟨e, he, hkey⟩ := List.mem_map.mp hmem
    exact hfresh e he hkey

theorem ensureEntity_intents (m : Model) (name : Text) (kind : EntityKind) :
    (m.ensureEntity name kind).1.intents = m.intents := by
  unfold ensureEntity
  split <;> rfl

theorem ensureIntent_entities (m : Model) (name : Text) :
    (m.ensureIntent name).1.entities = m.entities := by
  unfold ensureIntent
  split <;> rfl

end Model

/-! ## The block and the last section -/

/-- What the definitions that open lists have for an entity: a list has the values under
them, other kinds have none. -/
def listedUnder (m : Model) (ls : List Text) (key : Text × EntityKind) : List ListValue :=
  if key.2 = .list then valuesUnder m key.1 ls else []

/-- The block is what a section with this opener and these bullets so far is about; `M` is
the model of all lines. -/
def Block.HeadedBy (M m : Model) (opener : Text) (bullets : List Text) : Block → Prop
  | .outside => True
  | .intent i => ∃ x, m.intents[i]? = some x ∧ Line.heading? opener = some x.name
  | .list i value => ∃ e, m.entities[i]? = some e ∧ e.kind = .list ∧
    (∀ name, opensList M name opener = true ↔ name = e.name) ∧
    ∀ v, value = some v → v + 1 = e.values.length ∧ listValues bullets ≠ []
  | .ml _ | .phraseList _ =>
    Line.heading? opener = none ∧ ∀ name, opensList M name opener = false

/-- The block is about the last section, unless no bullet can follow. -/
def Block.Follows (M m : Model) (ls : List Text) (b : Block) : Prop :=
  b = .outside ∨ ∃ earlier opener bullets, sections ls = earlier ++ [(opener, bullets)] ∧
    b.HeadedBy M m opener bullets

namespace Draft

/-- Every bullet so far is where it belongs. -/
structure Attributed (M : Model) (ls : List Text) (d : Draft) : Prop where
  utterances : Holds d.model.utteranceRows (utterancesUnder · ls)
  values : Holds d.model.valueRows (listedUnder M ls)
  block : d.block.Follows M d.model ls

/-! ## Definitions -/

theorem put_intents (d : Draft) (i : Nat) (kind : EntityKind) (b : Body) :
    (d.put i kind b).model.intents = d.model.intents := by
  cases b <;> rfl

theorem fill_intents (d : Draft) (i : Nat) (kind : EntityKind) (name : Text)
    (body : Option Text) : (d.fill i kind name body).1.model.intents = d.model.intents := by
  unfold fill
  split
  · exact put_intents d i kind _
  · rfl

theorem valueRows_put (d : Draft) (i : Nat) (kind : EntityKind) (b : Body) :
    (d.put i kind b).model.valueRows = d.model.valueRows := by
  cases b with
  | nothing => rfl
  | block => rfl
  | pattern text =>
    exact Model.valueRows_modifyEntity (f := fun e => { e with pattern := some text })
      (fun _ => ⟨rfl, rfl⟩) _ i
  | parts names =>
    exact Model.valueRows_modifyEntity (f := (·.addChildren names)) (fun _ => ⟨rfl, rfl⟩) _ i
  | phrases words =>
    exact Model.valueRows_modifyEntity (f := (·.addPhrases words)) (fun _ => ⟨rfl, rfl⟩) _ i

theorem valueRows_fill (d : Draft) (i : Nat) (kind : EntityKind) (name : Text)
    (body : Option Text) : (d.fill i kind name body).1.model.valueRows = d.model.valueRows := by
  unfold fill
  split
  · exact valueRows_put d i kind _
  · rfl

/-- A body opens the block of its entity or leaves the block as it is. -/
theorem block_fill (d : Draft) (i : Nat) (kind : EntityKind) (name : Text) (body : Option Text) :
    (d.fill i kind name body).1.block = d.block ∨
      (body.isSome = true ∧ (d.fill i kind name body).1.block = .ofKind kind i) := by
  cases body with
  | none => exact .inl rfl
  | some text =>
    unfold fill
    split
    · next b _ =>
      cases b with
      | block => exact .inr ⟨rfl, rfl⟩
      | nothing => exact .inl rfl
      | pattern _ => exact .inl rfl
      | parts _ => exact .inl rfl
      | phrases _ => exact .inl rfl
    · exact .inl rfl

/-- The block that a definition opens is about the section that the definition begins. -/
theorem follows_fill {M : Model} {ls : List Text} {l : Text} (hopens : Line.opens l = true)
    (hheading : Line.heading? l = none) {d : Draft} (hblock : d.block = .outside) {i : Nat}
    {e : Entity} (he : d.model.entities[i]? = some e) (name : Text) {body : Option Text}
    (hlist : ∀ n, opensList M n l = true ↔ e.kind = .list ∧ body.isSome = true ∧ n = e.name) :
    (d.fill i e.kind name body).1.block.Follows M (d.fill i e.kind name body).1.model
      (ls ++ [l]) := by
  -- filling the entity changes neither its place nor its name and kind
  obtain ⟨f, hf, hkey, -⟩ := (extends_fill d i e.kind name body).grown i e he
  rcases block_fill d i e.kind name body with hsame | ⟨hbody, hopened⟩
  · exact .inl (hsame.trans hblock)
  refine .inr ⟨sections ls, l, [], sections_append_opener hopens ls, ?_⟩
  have hnone (hkind : e.kind ≠ .list) (n : Text) : opensList M n l = false := by
    rw [Bool.eq_false_iff]
    intro hopen
    exact hkind ((hlist n).mp hopen).1
  rw [hopened]
  cases hkind : e.kind with
  | list =>
    refine ⟨f, ?_, (congrArg Prod.snd hkey).trans hkind, ?_, fun v hv => nomatch hv⟩
    · rw [← hkind]
      exact hf
    · intro n
      rw [hlist n, show f.name = e.name from congrArg Prod.fst hkey]
      simp [hkind, hbody]
  | ml => exact ⟨hheading, hnone (by simp [hkind])⟩
  | phraseList => exact ⟨hheading, hnone (by simp [hkind])⟩
  | prebuilt => trivial
  | regex => trivial
  | composite => trivial
  | patternAny => trivial

/-- Lines that open something, and lines that are no bullets, leave to each name what it
has. -/
theorem listedUnder_append {M : Model} {ls : List Text} {l : Text}
    (h : sections (ls ++ [l]) = sections ls ∨ sections (ls ++ [l]) = sections ls ++ [(l, [])]) :
    listedUnder M (ls ++ [l]) = listedUnder M ls := by
  funext key
  rw [listedUnder, listedUnder, valuesUnder_append h]

theorem attributed_of_opener {M : Model} {ls : List Text} {l : Text}
    (hopens : Line.opens l = true) {d : Draft}
    (hutterances : Holds d.model.utteranceRows (utterancesUnder · ls))
    (hvalues : Holds d.model.valueRows (listedUnder M ls))
    (hblock : d.block.Follows M d.model (ls ++ [l])) : Attributed M (ls ++ [l]) d where
  utterances := by
    simpa only [utterancesUnder_append (.inr (sections_append_opener hopens ls))] using hutterances
  values := by
    rwa [listedUnder_append (.inr (sections_append_opener hopens ls))]
  block := hblock

/-- Modifiers and a body for an entity that is there. -/
theorem attributed_fill {M : Model} {ls : List Text} {l : Text} (hopens : Line.opens l = true)
    (hheading : Line.heading? l = none) {d : Draft} (hblock : d.block = .outside) {m : Model}
    (hutterances : Holds m.utteranceRows (utterancesUnder · ls))
    (hvalues : Holds m.valueRows (listedUnder M ls)) {i : Nat} {e : Entity}
    (he : m.entities[i]? = some e) (mods : Modifiers) (name : Text) {body : Option Text}
    (hlist : ∀ n, opensList M n l = true ↔ e.kind = .list ∧ body.isSome = true ∧ n = e.name) :
    Attributed M (ls ++ [l])
      (fill { d with model := m.modifyEntity i (·.addModifiers mods) } i e.kind name body).1 := by
  obtain ⟨f, hf, hkey, -⟩ :=
    (Model.extends_modifyEntity (Entity.keeps_addModifiers mods) m i).grown i e he
  obtain ⟨hname, hkind⟩ : f.name = e.name ∧ f.kind = e.kind := Prod.mk.inj hkey
  refine attributed_of_opener hopens ?_ ?_ ?_
  · rw [Model.utteranceRows, fill_intents]
    exact hutterances
  · rw [valueRows_fill]
    dsimp only
    rw [Model.valueRows_addModifiers]
    exact hvalues
  · rw [← hname, ← hkind] at hlist
    rw [← hkind]
    exact follows_fill (d := { d with model := m.modifyEntity i (·.addModifiers mods) }) hopens
      hheading hblock hf name hlist

theorem opensList_of_typed {M : Model} {l name : Text} {kind : EntityKind} {mods : Modifiers}
    {body : Option Text}
    (hform : LineForm.ofLine l = .definition (.ok (.typed kind name mods body))) (n : Text) :
    opensList M n l = true ↔ kind = .list ∧ (typedBody kind body).isSome = true ∧ n = name := by
  rw [opensList, hform]
  by_cases hlist : kind = .list
  · simp [hlist, typedBody, eq_comm]
  · simp [hlist]

theorem opensList_of_separated {M : Model} {l name : Text} {mods : Modifiers}
    {body : Option Text}
    (hform : LineForm.ofLine l = .definition (.ok (.separated name mods body)))
    {kind : EntityKind} (hfirst : (M.entity? name).map Entity.kind = some kind) (n : Text) :
    opensList M n l = true ↔ kind = .list ∧ body.isSome = true ∧ n = name := by
  rw [opensList, hform]
  constructor
  · intro hopen
    obtain ⟨rfl, hbody, hkind⟩ := of_decide_eq_true hopen
    exact ⟨Option.some.inj (hfirst.symm.trans hkind), hbody, rfl⟩
  · rintro ⟨rfl, hbody, rfl⟩
    exact decide_eq_true ⟨rfl, hbody, hfirst⟩

/-- A definition that is not rejected leaves every bullet where it belongs. -/
theorem attributed_define {M : Model} {ls : List Text} {l : Text} {d : Draft}
    (h : Attributed M ls d) (hblock : d.block = .outside)
    (hkeys : d.model.entities.map Entity.key <+: M.entities.map Entity.key)
    {declared : Definition} (hform : LineForm.ofLine l = .definition (.ok declared)) :
    Attributed M (ls ++ [l]) (d.define declared).1 := by
  obtain ⟨hopens, hheading, -⟩ := Line.of_definition hform
  have houtside {m : Model} : d.block.Follows M m (ls ++ [l]) := .inl hblock
  cases declared with
  | intent name features =>
    refine attributed_of_opener hopens ?_ ?_ houtside
    · rw [define]
      dsimp only
      rw [Model.utteranceRows_modifyIntent (by intro x; exact ⟨rfl, rfl⟩)]
      exact Model.holds_ensureIntent h.utterances name
    · rw [Model.valueRows, define]
      dsimp only [Model.modifyIntent]
      rw [Model.ensureIntent_entities]
      exact h.values
  | typed kind name modifiers body =>
    obtain ⟨e, he, hkey⟩ := d.model.getElem?_ensureEntity name kind
    obtain ⟨rfl, rfl⟩ : e.name = name ∧ e.kind = kind := Prod.mk.inj hkey
    have hutterances :
        Holds (d.model.ensureEntity e.name e.kind).1.utteranceRows (utterancesUnder · ls) := by
      rw [Model.utteranceRows, Model.ensureEntity_intents]
      exact h.utterances
    refine attributed_fill hopens hheading hblock hutterances
      (Model.holds_ensureEntity h.values e.name e.kind) he modifiers e.name ?_
    exact opensList_of_typed hform
  | separated name modifiers body =>
    rcases d.model.place_cases name with ⟨i, e, hi, hfirst, he, rfl⟩ | ⟨hi, -⟩
    · rw [define_separated_of_some hi hfirst]
      refine attributed_fill (m := { d.model with references := d.model.references ++ [e.name] })
        hopens hheading hblock h.utterances h.values he modifiers e.name ?_
      have hkind : d.model.kindOf? e.name = some e.kind := congrArg (Option.map Entity.kind) hfirst
      exact opensList_of_separated hform (Model.kindOf?_of_keys hkeys hkind)
    · rw [define_separated_of_none hi]
      exact attributed_of_opener hopens h.utterances h.values houtside

/-! ## Bullets -/

section Bullet

variable {M : Model} {ls : List Text} {l content opener : Text} {d : Draft}
  {bullets : List Text} {earlier : List (Text × List Text)}
  (hold : sections ls = earlier ++ [(opener, bullets)])
  (hnew : sections (ls ++ [l]) = earlier ++ [(opener, bullets ++ [content])])

include hold hnew

/-- A bullet under a line that opens no list leaves the values as they are. -/
theorem listedUnder_bullet_of_not (hopener : ∀ name, opensList M name opener = false) :
    listedUnder M (ls ++ [l]) = listedUnder M ls := by
  funext key
  rw [listedUnder, listedUnder, valuesUnder_bullet_of_not hold hnew (hopener key.1)]

/-- A bullet under a line that is no header leaves the utterances as they are. -/
theorem utterancesUnder_bullet_of_none (hopener : Line.heading? opener = none) :
    (utterancesUnder · (ls ++ [l])) = (utterancesUnder · ls) := by
  funext name
  exact utterancesUnder_bullet_of_ne hold hnew (by simp [hopener])

/-- An utterance is one more for the name of its header, and for no other. -/
theorem attributed_utterance (h : Attributed M ls d) (hd : d.WellFormed) {i : Nat}
    (hblock : d.block = .intent i) (hheaded : d.block.HeadedBy M d.model opener bullets)
    (mentions : List Mention) :
    Attributed M (ls ++ [l]) { d with
      model := (d.model.withMentions mentions).modifyIntent i (·.addUtterance content) } := by
  rw [hblock] at hheaded
  obtain ⟨x, hx, hopener⟩ := hheaded
  have hnolist (name : Text) : opensList M name opener = false := by
    rw [Bool.eq_false_iff]
    intro hopen
    rw [heading?_of_opensList hopen] at hopener
    cases hopener
  refine ⟨?_, ?_, ?_⟩
  · refine Model.holds_modifyIntent (m := d.model.withMentions mentions) h.utterances
      hd.model.intentNames hx (by intro x; rfl) ?_ ?_
    · rw [utterancesUnder_bullet hold hnew hopener,
        ← h.utterances.of_row _ (List.mem_of_getElem? (Model.getElem?_utteranceRows hx))]
      rfl
    · intro name hname
      exact utterancesUnder_bullet_of_ne hold hnew (by simpa [hopener] using Ne.symm hname)
  · rw [listedUnder_bullet_of_not hold hnew hnolist]
    exact h.values
  · refine .inr ⟨earlier, opener, bullets ++ [content], hnew, ?_⟩
    dsimp only
    rw [hblock]
    exact ⟨x.addUtterance content, by simp [Model.modifyIntent, Model.withMentions, hx], hopener⟩

/-- Under a line that opens a list, a bullet makes of the values of this one list what the
bullets under the line say. -/
theorem attributed_list (h : Attributed M ls d) (hd : d.WellFormed) {i : Nat} {e : Entity}
    (he : d.model.entities[i]? = some e) (hkind : e.kind = .list)
    (hopener : ∀ name, opensList M name opener = true ↔ name = e.name) {f : Entity → Entity}
    (hkey : ∀ e, (f e).key = e.key)
    (hf : ∀ before, e.values = before ++ listValues bullets →
      (f e).values = before ++ listValues (bullets ++ [content]))
    {v : Nat} (hv : v + 1 = (f e).values.length) (hsome : listValues (bullets ++ [content]) ≠ [])
    {next : Draft} (hmodel : next.model = d.model.modifyEntity i f)
    (hblock : next.block = .list i (some v)) : Attributed M (ls ++ [l]) next := by
  have hopen := (hopener e.name).mpr rfl
  obtain ⟨before, hbefore, hafter⟩ := valuesUnder_bullet hold hnew hopen
  have hvalues : e.values = before ++ listValues bullets := by
    rw [← hbefore]
    exact (h.values.of_row _ (List.mem_of_getElem? (Model.getElem?_valueRows he))).trans
      (if_pos hkind)
  refine ⟨?_, ?_, ?_⟩
  · rw [hmodel, utterancesUnder_bullet_of_none hold hnew (heading?_of_opensList hopen)]
    exact h.utterances
  · rw [hmodel]
    refine Model.holds_modifyEntity h.values hd.model.entityKeys he hkey ?_ ?_
    · rw [hf before hvalues, ← hafter]
      exact (if_pos hkind).symm
    · -- a list of another name is not opened by this line
      intro key hne
      unfold listedUnder
      split
      · next hlist =>
        refine valuesUnder_bullet_of_not hold hnew ?_
        rw [Bool.eq_false_iff, ne_eq, hopener]
        intro hname
        exact hne (Prod.ext hname (hlist.trans hkind.symm))
      · rfl
  · have hplace : next.model.entities[i]? = some (f e) := by
      rw [hmodel]
      simp [Model.modifyEntity, he]
    obtain ⟨hname, hsame⟩ : (f e).name = e.name ∧ (f e).kind = e.kind := Prod.mk.inj (hkey e)
    refine .inr ⟨earlier, opener, bullets ++ [content], hnew, ?_⟩
    rw [hblock]
    refine ⟨f e, hplace, hsame.trans hkind, ?_, ?_⟩
    · rw [hname]
      exact hopener
    · intro w hw
      obtain rfl := Option.some.inj hw
      exact ⟨hv, hsome⟩

/-- A bullet with a colon is one more value. -/
theorem attributed_value (h : Attributed M ls d) (hd : d.WellFormed) {i : Nat} {v : Option Nat}
    (hblock : d.block = .list i v) (hheaded : d.block.HeadedBy M d.model opener bullets)
    (hends : content.endsWith ':' = true) :
    Attributed M (ls ++ [l]) { d with
      model := d.model.modifyEntity i (·.addValue (Text.trim content.dropLast))
      block := .list i (some (d.valueCount i)) } := by
  rw [hblock] at hheaded
  obtain ⟨e, he, hkind, hopener, -⟩ := hheaded
  refine attributed_list hold hnew h hd he hkind hopener
    (f := (·.addValue (Text.trim content.dropLast))) (fun _ => rfl) ?_
    (by simp [Entity.addValue, valueCount_eq he]) (by simp [listValues_append_value hends]) rfl rfl
  intro before hvalues
  rw [listValues_append_value hends, ← List.append_assoc, ← hvalues]
  rfl

omit hold hnew in
theorem modify_last {α : Type} (xs : List α) (x : α) (f : α → α) :
    (xs ++ [x]).modify xs.length f = xs ++ [f x] := by
  induction xs with
  | nil => rfl
  | cons y xs ih => simp [ih]

/-- Any other bullet is one more synonym of the last value. -/
theorem attributed_synonym (h : Attributed M ls d) (hd : d.WellFormed) {i v : Nat}
    (hblock : d.block = .list i (some v)) (hheaded : d.block.HeadedBy M d.model opener bullets)
    (hends : content.endsWith ':' = false) :
    Attributed M (ls ++ [l]) { d with
      model := d.model.modifyEntity i (·.addSynonym v content) } := by
  rw [hblock] at hheaded
  obtain ⟨e, he, hkind, hopener, hvalue⟩ := hheaded
  obtain ⟨hlength, hsome⟩ := hvalue v rfl
  obtain ⟨others, last, hbullets, hbullets'⟩ := listValues_append_synonym hends hsome
  refine attributed_list hold hnew h hd he hkind hopener (f := (·.addSynonym v content))
    (fun _ => rfl) ?_ (by simpa [Entity.addSynonym] using hlength) (by simp [hbullets']) rfl hblock
  intro before hvalues
  rw [hbullets, ← List.append_assoc] at hvalues
  -- the value at hand is the last one of the list
  have hplace : v = (before ++ others).length := by
    rw [hvalues, List.length_append, List.length_singleton] at hlength
    omega
  rw [Entity.addSynonym, hvalues, hplace, modify_last, hbullets', List.append_assoc]

/-- Under a definition that opens no list a bullet changes neither utterances nor values. -/
theorem attributed_of_definition (h : Attributed M ls d)
    (hblock : ∃ i, d.block = .ml i ∨ d.block = .phraseList i)
    (hheaded : d.block.HeadedBy M d.model opener bullets) {m : Model}
    (hutterances : m.intents = d.model.intents)
    (hvalues : Holds m.valueRows (listedUnder M ls)) :
    Attributed M (ls ++ [l]) { d with model := m } := by
  have hplain : Line.heading? opener = none ∧ ∀ name, opensList M name opener = false := by
    obtain ⟨i, hblock | hblock⟩ := hblock
    · rwa [hblock] at hheaded
    · rwa [hblock] at hheaded
  refine ⟨?_, ?_, .inr ⟨earlier, opener, bullets ++ [content], hnew, ?_⟩⟩
  · rw [Model.utteranceRows, hutterances, utterancesUnder_bullet_of_none hold hnew hplain.1]
    exact h.utterances
  · rw [listedUnder_bullet_of_not hold hnew hplain.2]
    exact hvalues
  · obtain ⟨i, hblock | hblock⟩ := hblock
    · exact hblock ▸ hplain
    · exact hblock ▸ hplain

/-- A bullet goes where its section says. -/
theorem attributed_takes (h : Attributed M ls d) (hd : d.WellFormed)
    (hheaded : d.block.HeadedBy M d.model opener bullets) {next : Draft}
    (htakes : d.Takes content (next, none)) : Attributed M (ls ++ [l]) next := by
  cases htakes with
  | utterance hblock _ => exact attributed_utterance hold hnew h hd hblock hheaded _
  | value hblock hcolon _ =>
    obtain ⟨hends, rfl⟩ := Text.dropLast?_eq_some hcolon
    exact attributed_value hold hnew h hd hblock hheaded hends
  | synonym hblock hcolon _ =>
    exact attributed_synonym hold hnew h hd hblock hheaded (Text.dropLast?_eq_none hcolon)
  | @child i c hblock _ =>
    refine attributed_of_definition hold hnew h ⟨i, .inl hblock⟩ hheaded
      (Model.ensureEntity_intents d.model c.name c.kind) ?_
    rw [Model.valueRows_modifyEntity (f := (·.addChildren [c.name])) (fun _ => ⟨rfl, rfl⟩),
      Model.valueRows_addModifiers]
    exact Model.holds_ensureEntity h.values c.name c.kind
  | @phrases i hblock _ =>
    refine attributed_of_definition hold hnew h ⟨i, .inr hblock⟩ hheaded rfl ?_
    rw [Model.valueRows_modifyEntity (f := (·.addPhrases content.items)) (fun _ => ⟨rfl, rfl⟩)]
    exact h.values

end Bullet

theorem attributed_item {M : Model} {ls : List Text} {l content : Text} {d : Draft}
    (h : Attributed M ls d) (hd : d.WellFormed) (hopens : Line.opens l = false)
    (hbullet : Line.bullet? l = some content) (hok : (d.item content).2 = none) :
    Attributed M (ls ++ [l]) (d.item content).1 := by
  rcases h.block with houtside | ⟨earlier, opener, bullets, hold, hheaded⟩
  · simp [item, houtside] at hok
  · have htakes := takes_item d content
    rw [show d.item content = ((d.item content).1, none) from Prod.ext rfl hok] at htakes
    exact attributed_takes hold (sections_append_bullet hopens hbullet hold) h hd hheaded htakes

/-! ## Lines -/

/-- A line that is not rejected leaves every bullet where it belongs. -/
theorem attributed_read {M : Model} {ls : List Text} {l : Text} {d : Draft}
    (h : Attributed M ls d) (hd : d.WellFormed)
    (hkeys : d.model.entities.map Entity.key <+: M.entities.map Entity.key)
    (hok : (d.read l).2 = none) : Attributed M (ls ++ [l]) (d.read l).1 := by
  unfold read at hok ⊢
  cases hform : LineForm.ofLine l with
  | inert =>
    obtain ⟨hopens, hbullet⟩ := Line.of_inert hform
    have hsame := sections_append_other hopens hbullet ls
    refine ⟨?_, ?_, ?_⟩
    · simp only [utterancesUnder_append (.inl hsame)]
      exact h.utterances
    · rw [listedUnder_append (.inl hsame)]
      exact h.values
    · rw [Block.Follows, hsame]
      exact h.block
  | header name =>
    obtain ⟨hopens, hheading, -⟩ := Line.of_header hform
    obtain ⟨x, hx, hname⟩ := d.model.getElem?_ensureIntent name
    refine attributed_of_opener hopens (Model.holds_ensureIntent h.utterances name) ?_ ?_
    · rw [Model.valueRows, apply]
      dsimp only
      rw [Model.ensureIntent_entities]
      exact h.values
    · exact .inr ⟨sections ls, l, [], sections_append_opener hopens ls, x, hx, hname ▸ hheading⟩
  | definition result =>
    cases result with
    | error fault => simp [hform, apply] at hok
    | ok declared =>
      exact attributed_define (d := { d with block := .outside })
        ⟨h.utterances, h.values, .inl rfl⟩ rfl hkeys hform
  | item content =>
    obtain ⟨hopens, hbullet⟩ := Line.of_item hform
    rw [hform] at hok
    exact attributed_item h hd hopens hbullet hok
  | rejected fault => simp [hform, apply] at hok

/-- So do any lines without a rejected one. -/
theorem attributed_after {M : Model} {d : Draft} {done ls : List Text} {n : Nat}
    (h : Attributed M done d) (hd : d.WellFormed)
    (hkeys : (d.after ls).model.entities.map Entity.key <+: M.entities.map Entity.key)
    (hok : d.rejections n ls = []) : Attributed M (done ++ ls) (d.after ls) := by
  induction ls generalizing d done n with
  | nil => simpa using h
  | cons l ls ih =>
    rw [rejections_cons, List.append_eq_nil_iff] at hok
    have hread := attributed_read h hd ((extends_after d (l :: ls)).entities.trans hkeys)
      (rejection_eq_nil.mp hok.1)
    simpa using ih hread (wellFormed_read hd l) hkeys hok.2

theorem attributed_start (M : Model) (culture : Text) : Attributed M [] (start culture) where
  utterances := ⟨by simp [start, Model.utteranceRows], by simp [utterancesUnder, sections, headed]⟩
  values := ⟨by simp [start, Model.valueRows], by simp [listedUnder, valuesUnder, sections, headed]⟩
  block := .inl rfl

/-- Modifiers that waited for their entity change no values. -/
theorem valueRows_finish (d : Draft) : d.finish.valueRows = d.model.valueRows := by
  unfold finish
  generalize d.model = m
  induction d.deferred generalizing m with
  | nil => rfl
  | cons waiting others ih =>
    rw [List.foldl_cons, ih, Model.addModifiers]
    split
    · next i _ => exact Model.valueRows_addModifiers waiting.2 m i
    · rfl

/-! ## Lines that say nothing -/

theorem after_filter_inert (d : Draft) (ls : List Text) :
    d.after (ls.filter fun l => ¬ Line.Inert l) = d.after ls := by
  induction ls generalizing d with
  | nil => rfl
  | cons l ls ih =>
    by_cases hl : Line.Inert l
    · rw [List.filter_cons_of_neg (by simpa using hl), ih, after_cons, read_of_inert hl]
    · rw [List.filter_cons_of_pos (by simpa using hl), after_cons, after_cons, ih]

theorem rejections_filter_inert (d : Draft) (n k : Nat) (ls : List Text) :
    d.rejections n (ls.filter fun l => ¬ Line.Inert l) = [] ↔ d.rejections k ls = [] := by
  induction ls generalizing d n k with
  | nil => simp
  | cons l ls ih =>
    by_cases hl : Line.Inert l
    · rw [List.filter_cons_of_neg (by simpa using hl), rejections_cons, read_of_inert hl]
      simpa [rejection] using ih d n (k + 1)
    · rw [List.filter_cons_of_pos (by simpa using hl), rejections_cons, rejections_cons,
        List.append_eq_nil_iff, List.append_eq_nil_iff, rejection_eq_nil, rejection_eq_nil,
        ih _ (n + 1) (k + 1)]

end Draft

theorem parse_of_filter_inert {text other culture : Text} {m : Model}
    (hlines : (other.lines.filter fun l => ¬ Line.Inert l)
      = text.lines.filter fun l => ¬ Line.Inert l)
    (h : parse text culture = .ok m) : parse other culture = .ok m := by
  rw [parse_eq_ok_iff, rejections_eq] at h ⊢
  rw [← Draft.rejections_filter_inert _ 1, ← Draft.after_filter_inert] at h ⊢
  rwa [hlines]

/-- The tables of the model of a text hold what the sections of the text have. -/
theorem holds_of_parse {text culture : Text} {m : Model} (h : parse text culture = .ok m) :
    Holds m.utteranceRows (utterancesUnder · text.lines) ∧
      Holds m.valueRows (listedUnder m text.lines) := by
  rw [parse_eq_ok_iff, rejections_eq] at h
  obtain ⟨hok, rfl⟩ := h
  have hvalues := ((Draft.start culture).after text.lines).valueRows_finish
  have hkeys : ((Draft.start culture).after text.lines).model.entities.map Entity.key
      <+: ((Draft.start culture).after text.lines).finish.entities.map Entity.key := by
    have hkeys := congrArg (List.map Prod.fst) hvalues
    rw [Model.map_valueRows, Model.map_valueRows] at hkeys
    exact hkeys ▸ List.prefix_refl _
  have hdone := Draft.attributed_after (Draft.attributed_start _ culture)
    (Draft.wellFormed_start culture) hkeys hok
  refine ⟨?_, ?_⟩
  · rw [Model.utteranceRows, Draft.finish_intents]
    exact hdone.utterances
  · rw [hvalues]
    exact hdone.values

/-- In the model of a text, the utterances of each intent are the bullets under the headers
with its name, and the values of each list are those under the lines that open its block; no
other names have bullets there, and lines that say nothing may come and go. -/
theorem bullets_attributed {text culture : Text} {m : Model} (h : parse text culture = .ok m) :
    (∀ x ∈ m.intents, x.utterances = utterancesUnder x.name text.lines) ∧
    (∀ name, utterancesUnder name text.lines ≠ [] → ∃ x ∈ m.intents, x.name = name) ∧
    (∀ e ∈ m.entities, e.kind = .list → e.values = valuesUnder m e.name text.lines) ∧
    (∀ name, valuesUnder m name text.lines ≠ [] →
      ∃ e ∈ m.entities, e.name = name ∧ e.kind = .list) ∧
    ∀ other : Text,
      ((other.lines.filter fun l => ¬ Line.Inert l) = text.lines.filter fun l => ¬ Line.Inert l) →
      parse other culture = .ok m := by
  obtain ⟨hutterances, hvalues⟩ := holds_of_parse h
  refine ⟨?_, ?_, ?_, ?_, fun other hlines => parse_of_filter_inert hlines h⟩
  · intro x hx
    exact hutterances.of_row _ (List.mem_map_of_mem hx)
  · intro name hname
    have hmem := hutterances.row_of name hname
    rw [Model.map_utteranceRows] at hmem
    exact List.mem_map.mp hmem
  · intro e he hkind
    exact (hvalues.of_row _ (List.mem_map_of_mem he)).trans (if_pos hkind)
  · intro name hname
    have hmem := hvalues.row_of (name, .list) (by simpa [listedUnder] using hname)
    rw [Model.map_valueRows] at hmem
    obtain ⟨e, he, hkey⟩ := List.mem_map.mp hmem
    exact ⟨e, he, Prod.mk.inj hkey⟩

/-- A header that comes twice and a list that is opened again, with a comment between. -/
theorem bullets_attributed_reopened :
    let text : Text :=
      "# Greet\n- hi\n@ list size =\n- big :\n\t- huge\n> to\n# Greet\n* ho\n@ size:\n+ wee:".toList
    let plain : Text :=
      "# Greet\n- hi\n@ list size =\n- big :\n\t- huge\n# Greet\n* ho\n@ size:\n+ wee:".toList
    let greet : Intent := { name := "Greet".toList, utterances := ["hi".toList, "ho".toList] }
    let size : Entity :=
      { name := "size".toList
        kind := .list
        values := [⟨"big".toList, ["huge".toList]⟩, ⟨"wee".toList, []⟩] }
    let m : Model := { intents := [greet], entities := [size], references := ["size".toList] }
    parse text [] = .ok m ∧
      greet.utterances = utterancesUnder "Greet".toList text.lines ∧
      size.values = valuesUnder m "size".toList text.lines ∧
      parse plain [] = .ok m := by
  intro text plain greet size m
  have h : parse text [] = .ok m := rfl
  have hlines : (plain.lines.filter fun l => ¬ Line.Inert l)
      = text.lines.filter fun l => ¬ Line.Inert l := by
    dsimp only [plain, text]
    decide +kernel
  obtain ⟨hutterances, -, hvalues, -, hinert⟩ := bullets_attributed h
  exact ⟨h, hutterances greet List.mem_cons_self, hvalues size List.mem_cons_self rfl,
    hinert plain hlines⟩

end LuServer
