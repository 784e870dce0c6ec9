/-
# Completion

Completion is a table of independent rules.  A rule looks at the line before
the caret; when it applies it contributes items, and the items of all rules
follow one another in the order of the table.  The model is only built when a
rule that needs it applies, and then once for all of them.

* `Rule.applies`: whether a rule contributes.
* `Rule.items`: what a rule contributes.
* `complete`: the items at a position of a text.
-/
import LuServer.Caret.Slot
import LuServer.Counted

namespace LuServer

/-- What an item stands for in the editor. -/
inductive ItemKind where
  | keyword
  | property
  | method
deriving DecidableEq, Repr

/-- The number that editors know an item kind by. -/
def ItemKind.code : ItemKind → Nat
  | keyword => 14
  | property => 10
  | method => 2

/-- A suggestion: what is shown, what is inserted, and an explanation. -/
structure Item where
  label : Text
  kind : ItemKind
  insertText : Text
  documentation : Text
deriving DecidableEq, Repr

/-- The rules of completion. -/
inductive Rule where
  | kinds
  | prebuilts
  | regexBody
  | modifiers
  | separatedRegex
  | patternEntities
  | definedEntities
  | parts
  | roles
  | children
  | entityFeatures
  | intentModifier
  | intentFeatures
deriving DecidableEq, Repr

namespace Rule

/-- Every rule, in the order in which items are listed. -/
def all : List Rule :=
  [kinds, prebuilts, regexBody, modifiers, separatedRegex, patternEntities, definedEntities,
    parts, roles, children, entityFeatures, intentModifier, intentFeatures]

/-- Whether a rule contributes after `line`. -/
def applies (line : Text) : Rule → Bool
  | kinds => Slot.isKind line
  | prebuilts => Slot.isPrebuilt line
  | regexBody => Slot.isRegexBody line
  | modifiers => Slot.isModifier line
  | separatedRegex => (Slot.separatedName? line).isSome
  | patternEntities => Slot.isPattern line
  | definedEntities => Slot.isKind line
  | parts => Slot.isPart line
  | roles => Slot.isRole line
  | children => Slot.isChild line
  | entityFeatures => (Slot.featureOwner? line).isSome
  | intentModifier => Slot.isIntentModifier line
  | intentFeatures => Slot.isIntentFeature line

end Rule

namespace Item

/-- The item for a keyword that is inserted as it is shown. -/
def ofKeyword (word : Text) (documentation : String) : Item :=
  ⟨word, .keyword, word, documentation.toList ++ word⟩

/-- The item for the slashes of a pattern. -/
def slashes : Item :=
  ⟨"RegExp Entity".toList, .keyword, "//".toList, "Regex entity pattern".toList⟩

/-- The item for the modifier that gives roles. -/
def hasRoles : Item :=
  ⟨"hasRoles?".toList, .keyword, "hasRoles".toList, "Does this entity have roles?".toList⟩

/-- The item for the modifier that gives features to an entity or an intent. -/
def usesFeature (owner : String) : Item :=
  ⟨"usesFeature?".toList, .keyword, "usesFeature".toList,
    ("Does this " ++ owner ++ " use a feature?").toList⟩

/-- The item for a name that is shown as it is inserted. -/
def ofName (documentation : String) (name : Text) : Item :=
  ⟨name, .property, name, documentation.toList ++ name⟩

/-- The item for an entity that is mentioned in a pattern. -/
def ofMention (name : Text) : Item :=
  ⟨"Entity: ".toList ++ name, .property, name,
    "Pattern suggestion for entity: ".toList ++ name⟩

/-- The item for a role. -/
def ofRole (role : Text) : Item :=
  ⟨"Role: ".toList ++ role, .property, role, "Role suggestion: ".toList ++ role⟩

/-- The item for a child, which comes after a blank. -/
def ofChild (name : Text) : Item :=
  ⟨"Entity: ".toList ++ name, .property, ' ' :: name,
    "Child entity suggestion: ".toList ++ name⟩

/-- The item for a feature. -/
def ofFeature (name : Text) : Item :=
  ⟨"Entity: ".toList ++ name, .method, name, "Feature suggestion: ".toList ++ name⟩

end Item

/-- The text at hand, its line with the caret, and the culture to read it in. -/
structure CaretContext where
  text : Text
  line : Nat
  culture : Text
  /-- The line before the caret. -/
  before : Text
deriving Repr

namespace CaretContext

/-- The context of a position in a text. -/
def ofPosition (text : Text) (p : Position) (culture : Text) : CaretContext :=
  ⟨text, p.line, culture, text.upToCaret p⟩

end CaretContext

/-- Work that can ask for the model.  The state is the answer, once there is
one. -/
abbrev Asking (α : Type) := StateT (Option (Option Model)) Counted α

/-- The model around the caret, which is built the first time it is asked
for. -/
def askModel (ctx : CaretContext) : Asking (Option Model) := do
  match ← get with
  | some answer => return answer
  | none =>
    let answer ← extractAround? ctx.text ctx.line ctx.culture
    set (some answer)
    return answer

/-- The names of the entities of these kinds; none without a model. -/
def askNames (ctx : CaretContext) (kinds : List EntityKind) : Asking (List Text) := do
  let answer ← askModel ctx
  return (answer.map (·.entityNames kinds)).getD []

namespace Rule

/-- What a rule contributes when it applies. -/
def items (ctx : CaretContext) : Rule → Asking (List Item)
  | kinds => return EntityKind.all.map fun k => .ofKeyword k.keyword "Entity type: "
  | prebuilts => return EntityKind.prebuiltNames.map fun n => .ofKeyword n "Prebuilt entity: "
  | regexBody => return [.slashes]
  | modifiers => return [.hasRoles, .usesFeature "entity"]
  | separatedRegex => do
    let names ← askNames ctx [.regex]
    return if (Slot.separatedName? ctx.before).any names.contains then [.slashes] else []
  | patternEntities => return (← askNames ctx EntityKind.referable).map .ofMention
  | definedEntities => do
    let names ← askNames ctx EntityKind.referable
    return (names.filter fun n => (EntityKind.ofKeyword? n).isNone).map
      (.ofName "Defined entity: ")
  | parts => return (← askNames ctx EntityKind.composable).map (.ofName "Composite child entity: ")
  | roles => do
    let answer ← askModel ctx
    return ((answer.map (·.roles EntityKind.referable)).getD []).map .ofRole
  | children => return (← askNames ctx EntityKind.referable).map .ofChild
  | entityFeatures => do
    let names ← askNames ctx EntityKind.featurable
    let owner := Slot.featureOwner? ctx.before
    return (names.filter fun n => owner ≠ some n).map .ofFeature
  | intentModifier => return [.usesFeature "intent"]
  | intentFeatures => return (← askNames ctx EntityKind.featurable).map .ofFeature

/-- The items of the rules that apply, one rule after the other. -/
def collect (ctx : CaretContext) : List Rule → Asking (List Item)
  | [] => return []
  | r :: rs => do
    let own ← if r.applies ctx.before then r.items ctx else pure []
    let others ← collect ctx rs
    return own ++ others

end Rule

/-- The items at a position of a text. -/
def complete (text : Text) (p : Position) (culture : Text) : Counted (List Item) :=
  (Rule.collect (.ofPosition text p culture) Rule.all).run' none

end LuServer
