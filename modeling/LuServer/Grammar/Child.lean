/-
# Children of an ml entity

A bullet of an ml entity declares a child: `@`, then a kind and a name, or a
feature and a name, or a name alone, then modifiers.
-/
import LuServer.Grammar.Modifiers

namespace LuServer

/-- A child as its bullet declares it. -/
structure Child where
  kind : EntityKind
  name : Text
  modifiers : Modifiers
deriving DecidableEq, Repr

namespace Child

/-- The parts of a child: kind, name, the feature in front of the name, and the
text of the modifiers. -/
def parts (header : Text) : Except Fault (EntityKind × Text × List Text × Text) :=
  let (first, rest) := header.nextWord
  if first = [] then .error .unnamedChild
  else
    let (second, tail) := rest.nextWord
    match EntityKind.ofKeyword? first with
    | some kind =>
      if second = [] then .error (.missingChildName kind) else .ok (kind, second, [], tail)
    | none =>
      if second = [] ∨ Modifiers.occursIn second = true then .ok (.ml, first, [], rest)
      else .ok (.ml, second, [first], tail)

/-- The child that a bullet declares.  What follows an equals sign does not
count. -/
def read (content : Text) : Except Fault Child :=
  match content.dropHead? '@' with
  | none => .error (.notAChild content)
  | some declared => do
    let (kind, name, features, rest) ← parts (declared.upTo '=').trim
    Name.check name
    let modifiers ← Modifiers.read rest
    return ⟨kind, name, { modifiers with features := features ++ modifiers.features }⟩

end Child

end LuServer
