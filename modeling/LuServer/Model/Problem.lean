/-
# Problems of a model

A model can be read without a fault and still make no sense as a whole: a name
may be defined with two kinds, or something that is mentioned may not be
defined.  Problems have no place in the text.

* `Model.addConflict`, `Model.addKindless`: reports that are made once for a name.
* `Model.problems`: every problem of a model, in a fixed order.
* `Problem.message`: the wording of a problem.
-/
import LuServer.Model.Query

namespace LuServer

/-- Something that does not fit together in a model. -/
inductive Problem where
  /-- A name with several kinds. -/
  | conflictingKinds (name : Text) (kinds : List EntityKind)
  /-- An entity that is its own feature. -/
  | selfFeature (name : Text)
  /-- A feature of an entity that is not defined. -/
  | undefinedFeature (feature entity : Text)
  /-- A part of a composite entity that is not defined. -/
  | undefinedPart (composite part : Text)
  /-- A feature of an intent that is not defined. -/
  | undefinedIntentFeature (feature intent : Text)
  /-- A label that names no entity other than a phrase list. -/
  | undefinedLabel (name : Text)
  /-- A name that is only defined without a kind. -/
  | kindlessName (name : Text)
deriving DecidableEq, Repr

namespace Problem

/-- A name between single quotes. -/
def quoted (t : Text) : String :=
  "'" ++ String.ofList t ++ "'"

/-- The wording of a problem. -/
def message : Problem → String
  | conflictingKinds name kinds =>
    "Entity " ++ quoted name ++ " is defined with conflicting types ("
      ++ ", ".intercalate (kinds.map fun k => String.ofList k.keyword) ++ ")"
  | selfFeature name => "Entity " ++ quoted name ++ " cannot use itself as a feature"
  | undefinedFeature feature entity =>
    "Feature " ++ quoted feature ++ " used by entity " ++ quoted entity ++ " is not defined"
  | undefinedPart composite part =>
    "Composite entity " ++ quoted composite ++ " includes undefined entity " ++ quoted part
  | undefinedIntentFeature feature intent =>
    "Feature " ++ quoted feature ++ " used by intent " ++ quoted intent ++ " is not defined"
  | undefinedLabel name => "Utterance label references undefined entity " ++ quoted name
  | kindlessName name => "Entity " ++ quoted name ++ " is never defined with a type"

end Problem

namespace Model

/-- The kinds that a name is defined with, in document order. -/
def kindsOf (m : Model) (name : Text) : List EntityKind :=
  (m.entities.filter fun e => e.name = name).map Entity.kind

/-- The names whose conflict has been reported, and the reports. -/
structure Conflicts where
  reported : List Text := []
  problems : List Problem := []
deriving DecidableEq, Repr

/-- An entity whose name is defined more than once is reported, unless its name has
been. -/
def addConflict (m : Model) (found : Conflicts) (e : Entity) : Conflicts :=
  if e.name ∈ found.reported then found
  else if 1 < (m.kindsOf e.name).length then
    { reported := found.reported ++ [e.name]
      problems := found.problems ++ [.conflictingKinds e.name (m.kindsOf e.name)] }
  else found

/-- The conflicts of the entities, in document order. -/
def conflicts (m : Model) : List Problem :=
  (m.entities.foldl m.addConflict {}).problems

/-- The problem with a feature of an entity, if there is one. -/
def featureProblem? (m : Model) (e : Entity) (feature : Text) : Option Problem :=
  if feature = e.name then some (.selfFeature e.name)
  else if m.defines feature then none
  else some (.undefinedFeature feature e.name)

/-- The undefined parts of a composite entity. -/
def partProblems (m : Model) (e : Entity) : List Problem :=
  if e.kind = .composite then
    (e.children.filter fun c => !m.defines c).map (.undefinedPart e.name)
  else []

/-- The problems of one entity. -/
def entityProblems (m : Model) (e : Entity) : List Problem :=
  e.features.filterMap (m.featureProblem? e) ++ m.partProblems e

/-- The problems of one intent. -/
def intentProblems (m : Model) (i : Intent) : List Problem :=
  (i.features.filter fun f => !m.defines f).map fun f => .undefinedIntentFeature f i.name

/-- Whether a name can label words: some entity other than a phrase list has
it. -/
def labelable (m : Model) (name : Text) : Bool :=
  m.entities.any fun e => e.name = name ∧ e.kind ≠ .phraseList

/-- The problems of the labels. -/
def labelProblems (m : Model) : List Problem :=
  (m.labels.filter fun l => !m.labelable l).map .undefinedLabel

/-- A name that no definition gives a kind is reported, unless the same message has been
given already. -/
def addKindless (m : Model) (found : List Problem) (name : Text) : List Problem :=
  if m.defines name ∨ (Problem.kindlessName name).message ∈ found.map Problem.message then found
  else found ++ [.kindlessName name]

/-- Every problem of a model. -/
def problems (m : Model) : List Problem :=
  m.references.foldl m.addKindless
    (m.conflicts ++ m.entities.flatMap m.entityProblems ++ m.intents.flatMap m.intentProblems
      ++ m.labelProblems)

end Model

end LuServer
