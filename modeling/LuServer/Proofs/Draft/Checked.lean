/-
# Reading with checked places

The reader once more, with every place of an intent, an entity or a value looked up before
it is used, every text cut by byte offsets, and every one of these able to fail.  On a
well-formed draft none fails, and the drafts that lines lead to are well-formed.  So reading
breaks off on no text, and what it has built at any line is as it should be.

* `Model.modifyIntent?`, `Model.modifyEntity?`: changes at a place that has to be there.
* `Draft.read?`, `Draft.readAll?`, `Draft.finish?`, `parse?`: the checked reader.
* `Draft.read?_eq`, `Draft.readAll?_eq`, `Draft.finish?_eq`: it is the reader.
* `readAll_wellFormed_unfailing`: after any lines of any text.
-/
import LuServer.Proofs.Draft.WellFormed
import LuServer.Proofs.Grammar.Sliced

namespace LuServer

/-! ## Changes at a place -/

namespace Model

/-- The model with the intent at place `i` changed, if there is one. -/
def modifyIntent? (m : Model) (i : Nat) (f : Intent → Intent) : Option Model :=
  if i < m.intents.length then some (m.modifyIntent i f) else none

/-- The model with the entity at place `i` changed, if there is one. -/
def modifyEntity? (m : Model) (i : Nat) (f : Entity → Entity) : Option Model :=
  if i < m.entities.length then some (m.modifyEntity i f) else none

theorem modifyIntent?_eq {m : Model} {i : Nat} {x : Intent} (hx : m.intents[i]? = some x)
    (f : Intent → Intent) : m.modifyIntent? i f = some (m.modifyIntent i f) :=
  if_pos (List.getElem?_eq_some_iff.mp hx).1

theorem modifyEntity?_eq {m : Model} {i : Nat} {e : Entity} (he : m.entities[i]? = some e)
    (f : Entity → Entity) : m.modifyEntity? i f = some (m.modifyEntity i f) :=
  if_pos (List.getElem?_eq_some_iff.mp he).1

/-- An entity that is there stays there. -/
theorem Extends.getElem? {m n : Model} (h : m.Extends n) {i : Nat} {e : Entity}
    (he : m.entities[i]? = some e) : ∃ f, n.entities[i]? = some f ∧ f.kind = e.kind := by
  obtain ⟨f, hf, hkey, -⟩ := h.grown i e he
  exact ⟨f, hf, congrArg Prod.snd hkey⟩

end Model

namespace Draft

/-! ## Definitions -/

/-- The draft with what `body` means for the entity at place `i`. -/
def put? (d : Draft) (i : Nat) (kind : EntityKind) : Body → Option Draft
  | .nothing => some d
  | .block => some { d with block := .ofKind kind i }
  | .pattern text => do
    let m ← d.model.modifyEntity? i fun e => { e with pattern := some text }
    return { d with model := m }
  | .parts names => do
    let m ← d.model.modifyEntity? i (·.addChildren names)
    return { d with model := m }
  | .phrases words => do
    let m ← d.model.modifyEntity? i (·.addPhrases words)
    return { d with model := m }

/-- The draft with the body of the entity at place `i`, whose kind says what it means. -/
def fill? (d : Draft) (i : Nat) (name : Text) (body : Option Text) :
    Option (Draft × Option Fault) :=
  if body = none then some (d, none)
  else do
    let e ← d.model.entities[i]?
    match Body.read e.kind name body with
    | .ok b =>
      let next ← d.put? i e.kind b
      return (next, none)
    | .error fault => return (d, some fault)

/-- The draft after a definition. -/
def define? (d : Draft) : Definition → Option (Draft × Option Fault)
  | .intent name features => do
    let (m, i) := d.model.ensureIntent name
    let m ← m.modifyIntent? i fun x => { x with features := appendNew x.features features }
    return ({ d with model := m }, none)
  | .typed kind name modifiers body => do
    let (m, i) := d.model.ensureEntity name kind
    let m ← m.modifyEntity? i (·.addModifiers modifiers)
    fill? { d with model := m } i name (typedBody kind body)
  | .separated name modifiers body =>
    let m := { d.model with references := d.model.references ++ [name] }
    match m.placeOf? name with
    | some i => do
      let m ← m.modifyEntity? i (·.addModifiers modifiers)
      fill? { d with model := m } i name body
    | none =>
      let waiting := if modifiers.isEmpty then [] else [(name, modifiers)]
      some ({ d with model := m, deferred := d.deferred ++ waiting }, none)

theorem put?_eq {d : Draft} {i : Nat} {e : Entity} (he : d.model.entities[i]? = some e)
    (kind : EntityKind) (b : Body) : d.put? i kind b = some (d.put i kind b) := by
  cases b with
  | nothing => rfl
  | block => rfl
  | pattern text =>
    rw [put?, Model.modifyEntity?_eq he]
    rfl
  | parts names =>
    rw [put?, Model.modifyEntity?_eq he]
    rfl
  | phrases words =>
    rw [put?, Model.modifyEntity?_eq he]
    rfl

theorem fill?_eq {d : Draft} {i : Nat} {e : Entity} (he : d.model.entities[i]? = some e)
    (name : Text) (body : Option Text) :
    d.fill? i name body = some (d.fill i e.kind name body) := by
  unfold fill? fill
  split
  · next hnone =>
    subst hnone
    rfl
  · rw [he, Option.bind_eq_bind, Option.bind_some]
    cases Body.read e.kind name body with
    | error fault => rfl
    | ok b =>
      dsimp only
      rw [put?_eq he]
      rfl

/-- Modifiers and a body for an entity that is there. -/
theorem fill?_addModifiers_eq (d : Draft) {m : Model} {i : Nat} {e : Entity}
    (he : m.entities[i]? = some e) (mods : Modifiers) (name : Text) (body : Option Text) :
    (do
      let m ← m.modifyEntity? i (·.addModifiers mods)
      fill? { d with model := m } i name body)
      = some (fill { d with model := m.modifyEntity i (·.addModifiers mods) } i e.kind name
          body) := by
  obtain ⟨f, hf, hkind⟩ :=
    (Model.extends_modifyEntity (Entity.keeps_addModifiers mods) m i).getElem? he
  rw [Model.modifyEntity?_eq he, Option.bind_eq_bind, Option.bind_some, ← hkind]
  exact fill?_eq (d := { d with model := m.modifyEntity i (·.addModifiers mods) }) hf name body

theorem define?_eq (d : Draft) (declared : Definition) :
    d.define? declared = some (d.define declared) := by
  cases declared with
  | intent name features =>
    obtain ⟨x, hx, -⟩ := d.model.getElem?_ensureIntent name
    rw [define?]
    dsimp only
    rw [Model.modifyIntent?_eq hx]
    rfl
  | typed kind name modifiers body =>
    obtain ⟨e, he, hkey⟩ := d.model.getElem?_ensureEntity name kind
    obtain rfl : e.kind = kind := congrArg Prod.snd hkey
    exact fill?_addModifiers_eq d he modifiers name _
  | separated name modifiers body =>
    rcases d.model.place_cases name with ⟨i, e, hi, hfirst, he, -⟩ | ⟨hi, -⟩
    · have hfilled := fill?_addModifiers_eq d
        (m := { d.model with references := d.model.references ++ [name] }) he modifiers name body
      have hplace :
          { d.model with references := d.model.references ++ [name] }.placeOf? name = some i := hi
      rw [define_separated_of_some hi hfirst, ← hfilled, define?]
      dsimp only
      rw [hplace]
    · have hplace :
          { d.model with references := d.model.references ++ [name] }.placeOf? name = none := hi
      rw [define_separated_of_none hi, define?]
      dsimp only
      rw [hplace]

/-! ## Bullets -/

/-- The draft after an utterance of the intent at place `i`. -/
def utterance? (d : Draft) (i : Nat) (content : Text) : Option (Draft × Option Fault) := do
  match ← (Sliced.mentions content).run with
  | .error fault => return (d, some fault)
  | .ok mentions =>
    let m ← (d.model.withMentions mentions).modifyIntent? i (·.addUtterance content)
    return ({ d with model := m }, none)

/-- The draft after a bullet of the list entity at place `i`. -/
def listItem? (d : Draft) (i : Nat) (value : Option Nat) (content : Text) :
    Option (Draft × Option Fault) := do
  let e ← d.model.entities[i]?
  match content.dropLast? ':' with
  | some canonical =>
    if canonical.trim = [] then return (d, some .missingCanonical)
    else
      let m ← d.model.modifyEntity? i (·.addValue canonical.trim)
      return ({ d with model := m, block := .list i (some e.values.length) }, none)
  | none =>
    if content = [] then return (d, some .emptySynonym)
    else match value with
      | none => return (d, some (.strayValue content))
      | some v =>
        if v < e.values.length then
          let m ← d.model.modifyEntity? i (·.addSynonym v content)
          return ({ d with model := m }, none)
        else none

/-- The draft after a bullet of the ml entity at place `i`. -/
def child? (d : Draft) (i : Nat) (content : Text) : Option (Draft × Option Fault) := do
  match ← (Sliced.child content).run with
  | .error fault => return (d, some fault)
  | .ok c =>
    let (m, j) := d.model.ensureEntity c.name c.kind
    let m ← m.modifyEntity? j (·.addModifiers c.modifiers)
    let m ← m.modifyEntity? i (·.addChildren [c.name])
    return ({ d with model := m }, none)

/-- The draft after a bullet of the phrase list at place `i`. -/
def phrase? (d : Draft) (i : Nat) (content : Text) : Option (Draft × Option Fault) :=
  if content.items = [] then some (d, some .emptyPhrase)
  else do
    let m ← d.model.modifyEntity? i (·.addPhrases content.items)
    return ({ d with model := m }, none)

/-- The draft after a bullet. -/
def item? (d : Draft) (content : Text) : Option (Draft × Option Fault) :=
  match d.block with
  | .outside => some (d, some .strayItem)
  | .intent i => d.utterance? i content
  | .list i value => d.listItem? i value content
  | .ml i => d.child? i content
  | .phraseList i => d.phrase? i content

theorem utterance?_eq {d : Draft} {i : Nat} {x : Intent} (hx : d.model.intents[i]? = some x)
    (content : Text) : d.utterance? i content = some (d.utterance i content) := by
  rw [utterance?, Sliced.mentions_eq, utterance]
  cases Mention.all content with
  | error fault => rfl
  | ok mentions =>
    dsimp only [Sliced.run_sure, Option.bind_eq_bind, Option.bind_some]
    rw [Model.modifyIntent?_eq (m := d.model.withMentions mentions) hx]
    rfl

theorem listItem?_eq {d : Draft} {i : Nat} {e : Entity} (he : d.model.entities[i]? = some e)
    {value : Option Nat} (hvalue : ∀ v, value = some v → v < e.values.length) (content : Text) :
    d.listItem? i value content = some (d.listItem i value content) := by
  unfold listItem? listItem
  rw [he, Option.bind_eq_bind, Option.bind_some, valueCount_eq he]
  cases content.dropLast? ':' with
  | some canonical =>
    dsimp only
    rw [Model.modifyEntity?_eq he]
    split <;> rfl
  | none =>
    dsimp only
    split
    · rfl
    · cases value with
      | none => rfl
      | some v =>
        dsimp only
        rw [Model.modifyEntity?_eq he, if_pos (hvalue v rfl)]
        rfl

theorem child?_eq {d : Draft} {i : Nat} {e : Entity} (he : d.model.entities[i]? = some e)
    (content : Text) : d.child? i content = some (d.child i content) := by
  rw [child?, Sliced.child_eq, child]
  cases Child.read content with
  | error fault => rfl
  | ok c =>
    obtain ⟨new, hnew, -⟩ := d.model.getElem?_ensureEntity c.name c.kind
    obtain ⟨parent, hparent, -⟩ := ((Model.extends_ensureEntity d.model c.name c.kind).trans
      (Model.extends_modifyEntity (Entity.keeps_addModifiers c.modifiers) _
        (d.model.ensureEntity c.name c.kind).2)).getElem? he
    dsimp only [Sliced.run_sure, Option.bind_eq_bind, Option.bind_some]
    rw [Model.modifyEntity?_eq hnew, Option.bind_some, Model.modifyEntity?_eq hparent]
    rfl

theorem phrase?_eq {d : Draft} {i : Nat} {e : Entity} (he : d.model.entities[i]? = some e)
    (content : Text) : d.phrase? i content = some (d.phrase i content) := by
  rw [phrase?, phrase, Model.modifyEntity?_eq he]
  split <;> rfl

theorem item?_eq {d : Draft} (hd : d.block.PointsInto d.model) (content : Text) :
    d.item? content = some (d.item content) := by
  unfold item? item
  cases hblock : d.block with
  | outside => rfl
  | intent i =>
    rw [hblock] at hd
    obtain ⟨x, hx⟩ := hd
    exact utterance?_eq hx content
  | list i value =>
    rw [hblock] at hd
    obtain ⟨e, he, -, hvalue⟩ := hd
    exact listItem?_eq he hvalue content
  | ml i =>
    rw [hblock] at hd
    obtain ⟨e, he, -⟩ := hd
    exact child?_eq he content
  | phraseList i =>
    rw [hblock] at hd
    obtain ⟨e, he, -⟩ := hd
    exact phrase?_eq he content

/-! ## Lines -/

/-- The draft after a line, and the line's fault. -/
def read? (d : Draft) (line : Text) : Option (Draft × Option Fault) := do
  match ← Sliced.lineForm line with
  | .inert => return (d, none)
  | .rejected fault => return (d, some fault)
  | .header name =>
    let (m, i) := d.model.ensureIntent name
    return ({ d with model := m, block := .intent i }, none)
  | .definition (.error fault) => return ({ d with block := .outside }, some fault)
  | .definition (.ok declared) => define? { d with block := .outside } declared
  | .item content => d.item? content

/-- The draft after `ls`, of which the first has number `n`, and the rejected lines. -/
def readAll? (d : Draft) (n : Nat) : List Text → Option (Draft × List SyntaxError)
  | [] => some (d, [])
  | l :: ls => do
    let (next, fault) ← d.read? l
    let (last, errors) ← next.readAll? (n + 1) ls
    return (last, (fault.map fun f => ⟨n, l.width, f⟩).toList ++ errors)

/-- The model, with the modifiers that waited for their entity. -/
def finish? (d : Draft) : Option Model :=
  d.deferred.foldlM (fun m waiting =>
    match m.placeOf? waiting.1 with
    | some i => m.modifyEntity? i (·.addModifiers waiting.2)
    | none => some m) d.model

theorem read?_eq {d : Draft} (hd : d.WellFormed) (l : Text) : d.read? l = some (d.read l) := by
  rw [read?, Sliced.lineForm_eq, read]
  cases LineForm.ofLine l with
  | inert => rfl
  | rejected fault => rfl
  | header name => rfl
  | definition result =>
    cases result with
    | error fault => rfl
    | ok declared => exact define?_eq { d with block := .outside } declared
  | item content => exact item?_eq hd.block content

theorem readAll?_eq {d : Draft} (hd : d.WellFormed) (n : Nat) (ls : List Text) :
    d.readAll? n ls = some (d.readAll n ls) := by
  induction ls generalizing d n with
  | nil => rfl
  | cons l ls ih =>
    rw [readAll?, read?_eq hd, Option.bind_eq_bind, Option.bind_some]
    dsimp only
    rw [ih (wellFormed_read hd l)]
    rfl

theorem finish?_eq (d : Draft) : d.finish? = some d.finish := by
  unfold finish? finish
  generalize d.model = m
  induction d.deferred generalizing m with
  | nil => rfl
  | cons waiting others ih =>
    rw [List.foldlM_cons, List.foldl_cons, Model.addModifiers]
    rcases m.place_cases waiting.1 with ⟨i, e, hi, -, he, -⟩ | ⟨hi, -⟩
    · rw [hi]
      dsimp only
      rw [Model.modifyEntity?_eq he]
      exact ih _
    · rw [hi]
      exact ih m

end Draft

/-- The model of a text, or its rejected lines. -/
def parse? (text culture : Text) : Option (Except (List SyntaxError) Model) := do
  let (d, errors) ← (Draft.start culture).readAll? 1 text.lines
  let m ← d.finish?
  return if errors = [] then .ok m else .error errors

/-- After any lines of any text, rejected ones included, the draft is well-formed, the model
that it is finished to is as well, and no place and no cut that the reader has used was
missing. -/
theorem readAll_wellFormed_unfailing (text culture : Text) (n : Nat) :
    ((Draft.start culture).readAll 1 (text.lines.take n)).1.WellFormed ∧
    ((Draft.start culture).readAll 1 (text.lines.take n)).1.finish.WellFormed ∧
    (Draft.start culture).readAll? 1 (text.lines.take n)
      = some ((Draft.start culture).readAll 1 (text.lines.take n)) ∧
    parse? text culture = some (parse text culture) := by
  have hstart := Draft.wellFormed_start culture
  have hdraft : ((Draft.start culture).readAll 1 (text.lines.take n)).1.WellFormed := by
    rw [Draft.readAll_fst]
    exact Draft.wellFormed_after hstart _
  refine ⟨hdraft, Draft.wellFormed_finish hdraft, Draft.readAll?_eq hstart 1 _, ?_⟩
  rw [parse?, Draft.readAll?_eq hstart, Option.bind_eq_bind, Option.bind_some]
  dsimp only
  rw [Draft.finish?_eq]
  rfl

end LuServer
