/-
# Definitions

A line that starts with `@` declares an intent's features, defines an entity of
a given kind, or adds to an entity that is defined elsewhere.  After an equals
sign, or a colon at the end of the line, comes the body.

* `Definition.read`: what the line after its `@` declares.
* `Body.read`: what the body means for an entity of a given kind.
-/
import LuServer.Grammar.Modifiers

namespace LuServer

/-- What a line that starts with `@` declares. -/
inductive Definition where
  /-- Features of an intent. -/
  | intent (name : Text) (features : List Text)
  /-- An entity with its kind. -/
  | typed (kind : EntityKind) (name : Text) (modifiers : Modifiers) (body : Option Text)
  /-- Additions to an entity whose kind is given elsewhere. -/
  | separated (name : Text) (modifiers : Modifiers) (body : Option Text)
deriving DecidableEq, Repr

/-- What a body means for its entity. -/
inductive Body where
  | nothing
  /-- The lines that follow belong to the entity. -/
  | block
  | pattern (text : Text)
  | parts (names : List Text)
  | phrases (words : List Text)
deriving DecidableEq, Repr

namespace Body

/-- What `body` means for the entity `name` of kind `kind`. -/
def read (kind : EntityKind) (name : Text) : Option Text → Except Fault Body
  | none => .ok .nothing
  | some body =>
    match kind with
    | .ml => if body = [] then .ok .block else .error (.inlineChildren name)
    | .list => if body = [] then .ok .block else .error (.inlineListValues name)
    | .phraseList => if body = [] then .ok .block else .ok (.phrases body.items)
    | .regex =>
      if body = [] then .ok .nothing
      else match body.between? '/' '/' with
        | some text => .ok (.pattern text)
        | none => .error (.unslashedPattern body)
    | .composite =>
      match body.between? '[' ']' with
      | some names => .ok (.parts names.items)
      | none => .error (.unbracketedParts body)
    | .prebuilt | .patternAny =>
      if body = [] then .ok .nothing else .error (.unexpectedValue kind name)

end Body

namespace Definition

/-- The part before the body, and the body if there is one. -/
def splitBody (t : Text) : Text × Option Text :=
  match t.cutAt '=' with
  | some (header, body) => (header.trim, some body.trim)
  | none =>
    match t.dropLast? ':' with
    | some header => (header.trim, some [])
    | none => (t, none)

/-- A definition of an intent, from what follows the word `intent`. -/
def readIntent (rest : Text) (body : Option Text) : Except Fault Definition := do
  let (name, rest) ← Name.split rest
  if name = [] then throw .missingDefinedIntent
  Name.check name
  let modifiers ← Modifiers.read rest
  if modifiers.roles ≠ [] then throw (.intentWithRoles name)
  if body.getD [] ≠ [] then throw (.intentWithValue name)
  return .intent name modifiers.features

/-- The name of an entity without the remark in parentheses that a phrase list
can have after it. -/
def plainName (kind : EntityKind) (name : Text) : Text :=
  if kind = .phraseList then (name.upTo '(').trim else name

/-- A definition of an entity, from what follows its kind. -/
def readTyped (kind : EntityKind) (rest : Text) (body : Option Text) :
    Except Fault Definition := do
  let (written, rest) ← Name.split rest
  if written = [] then throw (.missingEntityName kind)
  let name := plainName kind written
  Name.check name
  if kind = .prebuilt ∧ EntityKind.isPrebuiltName name = false then
    throw (.unknownPrebuilt name)
  let modifiers ← Modifiers.read rest
  return .typed kind name modifiers body

/-- Additions to an entity, from the whole part before the body. -/
def readSeparated (header : Text) (body : Option Text) : Except Fault Definition := do
  let (name, rest) ← Name.split header
  Name.check name
  let modifiers ← Modifiers.read rest
  if body = none ∧ modifiers.isEmpty = true then throw (.unknownKind name)
  return .separated name modifiers body

/-- What a line declares, from what follows its `@`, trimmed. -/
def read (t : Text) : Except Fault Definition :=
  let (header, body) := splitBody t
  let (first, rest) := header.nextWord
  if first.asciiLower = "intent".toList then readIntent rest body
  else match EntityKind.ofKeyword? first with
    | some kind => readTyped kind rest body
    | none => readSeparated header body

end Definition

end LuServer
