/-
# The model of an LU document

What a document declares: intents with their utterances, entities with what
belongs to their kind, and the places where entities are mentioned.

* `Model`: everything one document declares, in document order.
* `appendNew`: a list grown by the members that it does not have yet.
-/
import LuServer.Model.Kind

namespace LuServer

/-- An intent: example utterances and the features it uses. -/
structure Intent where
  name : Text
  utterances : List Text := []
  features : List Text := []
deriving DecidableEq, Repr, Inhabited

/-- A value of a list entity in its normal form, with its synonyms. -/
structure ListValue where
  canonical : Text
  synonyms : List Text := []
deriving DecidableEq, Repr, Inhabited

/-- A definition of an entity. -/
structure Entity where
  name : Text
  kind : EntityKind
  roles : List Text := []
  features : List Text := []
  /-- Parts of a composite entity or children of an ml entity. -/
  children : List Text := []
  /-- Values of a list entity. -/
  values : List ListValue := []
  /-- Words of a phrase list. -/
  phrases : List Text := []
  /-- The pattern of a regex entity, without its slashes. -/
  pattern : Option Text := none
deriving DecidableEq, Repr, Inhabited

/-- A mention of an entity in an utterance that is a pattern. -/
structure PatternReference where
  name : Text
  role : Option Text := none
deriving DecidableEq, Repr, Inhabited

/-- What one document declares.  A name defined with two kinds has two
entities. -/
structure Model where
  culture : Text := []
  intents : List Intent := []
  entities : List Entity := []
  patternReferences : List PatternReference := []
  /-- Names of the entities that are labelled in utterances. -/
  labels : List Text := []
  /-- Names that definitions without a kind speak of. -/
  references : List Text := []
deriving DecidableEq, Repr, Inhabited

/-- `xs` followed by the members of `ys` that are not there yet, each once. -/
def appendNew {α : Type} [DecidableEq α] (xs ys : List α) : List α :=
  ys.foldl (fun acc y => if y ∈ acc then acc else acc ++ [y]) xs

@[simp] theorem appendNew_nil {α : Type} [DecidableEq α] (xs : List α) : appendNew xs [] = xs :=
  rfl

@[simp] theorem appendNew_cons {α : Type} [DecidableEq α] (xs : List α) (y : α) (ys : List α) :
    appendNew xs (y :: ys) = appendNew (if y ∈ xs then xs else xs ++ [y]) ys :=
  rfl

theorem appendNew_append {α : Type} [DecidableEq α] (xs ys zs : List α) :
    appendNew xs (ys ++ zs) = appendNew (appendNew xs ys) zs := by
  simp [appendNew]

@[simp] theorem mem_appendNew {α : Type} [DecidableEq α] {a : α} {xs ys : List α} :
    a ∈ appendNew xs ys ↔ a ∈ xs ∨ a ∈ ys := by
  induction ys generalizing xs with
  | nil => simp
  | cons y ys ih =>
    rw [appendNew_cons, ih]
    by_cases h : y ∈ xs <;> grind

theorem nodup_appendNew {α : Type} [DecidableEq α] {xs ys : List α} (h : xs.Nodup) :
    (appendNew xs ys).Nodup := by
  induction ys generalizing xs with
  | nil => simpa
  | cons y ys ih =>
    rw [appendNew_cons]
    apply ih
    by_cases hy : y ∈ xs
    · simpa [hy]
    · simp only [hy, if_false]
      grind

end LuServer
