/-
# Questions to a model

* `Model.entity?`, `Model.intent?`: the first declaration of a name.
* `Model.defines`: whether some entity has a name.
* `Model.entityNames`: the names of the entities of given kinds.
* `Model.roles`: the roles of the entities of given kinds.
-/
import LuServer.Model.Basic

namespace LuServer.Model

/-- The first entity with a name. -/
def entity? (m : Model) (name : Text) : Option Entity :=
  m.entities.find? fun e => e.name = name

/-- The intent with a name. -/
def intent? (m : Model) (name : Text) : Option Intent :=
  m.intents.find? fun i => i.name = name

/-- Whether an entity of any kind has this name. -/
def defines (m : Model) (name : Text) : Bool :=
  (m.entity? name).isSome

/-- The references of patterns to names that no entity has.  Such a name stands
for a pattern.any entity. -/
def undefinedReferences (m : Model) : List PatternReference :=
  m.patternReferences.filter fun r => !m.defines r.name

/-- The distinct names of entities of these kinds, in order of first occurrence.
Names that only patterns mention count as pattern.any. -/
def entityNames (m : Model) (kinds : List EntityKind) : List Text :=
  let defined := (m.entities.filter fun e => kinds.contains e.kind).map Entity.name
  let mentioned := m.undefinedReferences.map PatternReference.name
  appendNew (appendNew [] defined) (if kinds.contains .patternAny then mentioned else [])

/-- The distinct roles of entities of these kinds, in order of first occurrence.
Roles of names that only patterns mention count as those of pattern.any. -/
def roles (m : Model) (kinds : List EntityKind) : List Text :=
  let declared := (m.entities.filter fun e => kinds.contains e.kind).flatMap Entity.roles
  let mentioned := m.undefinedReferences.filterMap PatternReference.role
  appendNew (appendNew [] declared) (if kinds.contains .patternAny then mentioned else [])

theorem defines_iff {m : Model} {name : Text} :
    m.defines name = true ↔ ∃ e ∈ m.entities, e.name = name := by
  simp [defines, entity?]

end LuServer.Model
