/-
# Drafts of a model

A document is read line by line into a draft: the model so far, the block that
a bullet would belong to, and the modifiers for entities that are not defined
yet.  Each line gives the next draft and perhaps a fault; a line with a fault
can still have had an effect, since an entity is defined before its body is
looked at.

* `Draft.read`: the draft after one more line, and the line's fault.
* `Draft.readAll`: the draft after some lines, and their faults.
* `Draft.finish`: the model, with the modifiers that waited for an entity.
-/
import LuServer.Grammar.Child
import LuServer.Grammar.LineForm
import LuServer.Grammar.Mention
import LuServer.Model.Query
import LuServer.Text.Position

namespace LuServer

/-! ## Growing a model -/

namespace Entity

/-- An entity with further roles and features. -/
def addModifiers (e : Entity) (m : Modifiers) : Entity :=
  { e with roles := appendNew e.roles m.roles, features := appendNew e.features m.features }

/-- An entity with further children. -/
def addChildren (e : Entity) (names : List Text) : Entity :=
  { e with children := appendNew e.children names }

/-- An entity with further phrases. -/
def addPhrases (e : Entity) (words : List Text) : Entity :=
  { e with phrases := appendNew e.phrases words }

/-- An entity with one more value. -/
def addValue (e : Entity) (canonical : Text) : Entity :=
  { e with values := e.values ++ [{ canonical }] }

/-- An entity with one more synonym of its value at place `v`. -/
def addSynonym (e : Entity) (v : Nat) (synonym : Text) : Entity :=
  { e with values := e.values.modify v fun x => { x with synonyms := x.synonyms ++ [synonym] } }

end Entity

namespace Model

/-- The model with an intent of this name, and the intent's place. -/
def ensureIntent (m : Model) (name : Text) : Model × Nat :=
  match m.intents.findIdx? fun i => i.name = name with
  | some i => (m, i)
  | none => ({ m with intents := m.intents ++ [{ name }] }, m.intents.length)

/-- The model with an entity of this name and kind, and the entity's place. -/
def ensureEntity (m : Model) (name : Text) (kind : EntityKind) : Model × Nat :=
  match m.entities.findIdx? fun e => e.name = name ∧ e.kind = kind with
  | some i => (m, i)
  | none => ({ m with entities := m.entities ++ [{ name, kind }] }, m.entities.length)

/-- The model with the intent at place `i` changed. -/
def modifyIntent (m : Model) (i : Nat) (f : Intent → Intent) : Model :=
  { m with intents := m.intents.modify i f }

/-- The model with the entity at place `i` changed. -/
def modifyEntity (m : Model) (i : Nat) (f : Entity → Entity) : Model :=
  { m with entities := m.entities.modify i f }

/-- The place of the first entity with a name. -/
def placeOf? (m : Model) (name : Text) : Option Nat :=
  m.entities.findIdx? fun e => e.name = name

/-- The model with modifiers added to the first entity with a name. -/
def addModifiers (m : Model) (name : Text) (mods : Modifiers) : Model :=
  match m.placeOf? name with
  | some i => m.modifyEntity i (·.addModifiers mods)
  | none => m

end Model

/-! ## Drafts -/

/-- What a bullet belongs to; places count the model's intents or entities. -/
inductive Block where
  /-- Nothing: a bullet is a fault. -/
  | outside
  | intent (place : Nat)
  /-- A list entity, with the place of the value that synonyms belong to. -/
  | list (place : Nat) (value : Option Nat)
  | ml (place : Nat)
  | phraseList (place : Nat)
deriving DecidableEq, Repr, Inhabited

/-- The block of the entity at a place, for the kinds that have one. -/
def Block.ofKind : EntityKind → Nat → Block
  | .list, i => .list i none
  | .ml, i => .ml i
  | .phraseList, i => .phraseList i
  | _, _ => .outside

/-- A model in the making. -/
structure Draft where
  model : Model
  block : Block := .outside
  /-- Modifiers for names that had no entity when they were given. -/
  deferred : List (Text × Modifiers) := []
deriving DecidableEq, Repr, Inhabited

namespace Draft

/-- The draft before the first line. -/
def start (culture : Text) : Draft :=
  { model := { culture } }

/-- The draft with what `body` means for the entity at place `i`. -/
def put (d : Draft) (i : Nat) (kind : EntityKind) : Body → Draft
  | .nothing => d
  | .block => { d with block := .ofKind kind i }
  | .pattern text =>
    { d with model := d.model.modifyEntity i fun e => { e with pattern := some text } }
  | .parts names => { d with model := d.model.modifyEntity i (·.addChildren names) }
  | .phrases words => { d with model := d.model.modifyEntity i (·.addPhrases words) }

/-- The draft with the body of the entity at place `i`. -/
def fill (d : Draft) (i : Nat) (kind : EntityKind) (name : Text) (body : Option Text) :
    Draft × Option Fault :=
  match Body.read kind name body with
  | .ok b => (d.put i kind b, none)
  | .error fault => (d, some fault)

/-- A list entity that is defined with its kind has its block even without a
body. -/
def typedBody (kind : EntityKind) (body : Option Text) : Option Text :=
  if kind = .list then some (body.getD []) else body

/-- The draft after a definition. -/
def define (d : Draft) : Definition → Draft × Option Fault
  | .intent name features =>
    let (m, i) := d.model.ensureIntent name
    let grow (x : Intent) : Intent := { x with features := appendNew x.features features }
    ({ d with model := m.modifyIntent i grow }, none)
  | .typed kind name modifiers body =>
    let (m, i) := d.model.ensureEntity name kind
    fill { d with model := m.modifyEntity i (·.addModifiers modifiers) } i kind name
      (typedBody kind body)
  | .separated name modifiers body =>
    let m := { d.model with references := d.model.references ++ [name] }
    match m.placeOf? name, m.entity? name with
    | some i, some e =>
      fill { d with model := m.modifyEntity i (·.addModifiers modifiers) } i e.kind name body
    | _, _ =>
      let waiting := if modifiers.isEmpty then [] else [(name, modifiers)]
      ({ d with model := m, deferred := d.deferred ++ waiting }, none)

/-- The draft after an utterance of the intent at place `i`. -/
def utterance (d : Draft) (i : Nat) (content : Text) : Draft × Option Fault :=
  match Mention.all content with
  | .error fault => (d, some fault)
  | .ok mentions =>
    let m := { d.model with
      labels := appendNew d.model.labels (Mention.labels mentions)
      patternReferences := d.model.patternReferences ++ Mention.references mentions }
    let grow (x : Intent) : Intent := { x with utterances := x.utterances ++ [content] }
    ({ d with model := m.modifyIntent i grow }, none)

/-- The number of values of the entity at place `i`. -/
def valueCount (d : Draft) (i : Nat) : Nat :=
  ((d.model.entities[i]?).map fun e => e.values.length).getD 0

/-- The draft after a bullet of the list entity at place `i`: a value if it ends
with a colon, else a synonym of the value at hand. -/
def listItem (d : Draft) (i : Nat) (value : Option Nat) (content : Text) :
    Draft × Option Fault :=
  match content.dropLast? ':' with
  | some canonical =>
    if canonical.trim = [] then (d, some .missingCanonical)
    else
      ({ d with
        model := d.model.modifyEntity i (·.addValue canonical.trim)
        block := .list i (some (d.valueCount i)) }, none)
  | none =>
    if content = [] then (d, some .emptySynonym)
    else match value with
      | none => (d, some (.strayValue content))
      | some v => ({ d with model := d.model.modifyEntity i (·.addSynonym v content) }, none)

/-- The draft after a bullet of the ml entity at place `i`. -/
def child (d : Draft) (i : Nat) (content : Text) : Draft × Option Fault :=
  match Child.read content with
  | .error fault => (d, some fault)
  | .ok c =>
    let (m, j) := d.model.ensureEntity c.name c.kind
    ({ d with
      model := (m.modifyEntity j (·.addModifiers c.modifiers)).modifyEntity i
        (·.addChildren [c.name]) }, none)

/-- The draft after a bullet of the phrase list at place `i`. -/
def phrase (d : Draft) (i : Nat) (content : Text) : Draft × Option Fault :=
  if content.items = [] then (d, some .emptyPhrase)
  else ({ d with model := d.model.modifyEntity i (·.addPhrases content.items) }, none)

/-- The draft after a bullet. -/
def item (d : Draft) (content : Text) : Draft × Option Fault :=
  match d.block with
  | .outside => (d, some .strayItem)
  | .intent i => d.utterance i content
  | .list i value => d.listItem i value content
  | .ml i => d.child i content
  | .phraseList i => d.phrase i content

/-- The draft after a line of a given form. -/
def apply (d : Draft) : LineForm → Draft × Option Fault
  | .inert => (d, none)
  | .rejected fault => (d, some fault)
  | .header name =>
    let (m, i) := d.model.ensureIntent name
    ({ d with model := m, block := .intent i }, none)
  | .definition (.error fault) => ({ d with block := .outside }, some fault)
  | .definition (.ok declared) => define { d with block := .outside } declared
  | .item content => d.item content

/-- The draft after a line, and the line's fault. -/
def read (d : Draft) (line : Text) : Draft × Option Fault :=
  d.apply (LineForm.ofLine line)

/-- The model, with the modifiers that waited for their entity. -/
def finish (d : Draft) : Model :=
  d.deferred.foldl (fun m waiting => m.addModifiers waiting.1 waiting.2) d.model

end Draft

/-! ## Reading lines -/

/-- A rejected line: its number, counted from 1, its width, and the fault. -/
structure SyntaxError where
  line : Nat
  width : Nat
  fault : Fault
deriving DecidableEq, Repr

namespace Draft

/-- The draft after `ls`, of which the first has number `n`, and the rejected
lines among them. -/
def readAll (d : Draft) (n : Nat) : List Text → Draft × List SyntaxError
  | [] => (d, [])
  | l :: ls =>
    let (next, fault) := d.read l
    let (last, errors) := next.readAll (n + 1) ls
    (last, (fault.map fun f => ⟨n, l.width, f⟩).toList ++ errors)

end Draft

/-- The model of a text, or its rejected lines. -/
def parse (text culture : Text) : Except (List SyntaxError) Model :=
  let (d, errors) := (Draft.start culture).readAll 1 text.lines
  if errors = [] then .ok d.finish else .error errors

end LuServer
