/-
# Entity kinds

The seven kinds of entity that an LU document can define, their keywords, and
the names of the prebuilt entities.

* `EntityKind.ofKeyword?`: the kind that a keyword names, in any letter case.
* `EntityKind.keyword`: the one keyword that a kind is written with.
* `EntityKind.referable`, `EntityKind.composable`, `EntityKind.featurable`: the
  kinds offered in the various places where an entity can be named.
-/
import LuServer.Text.Cut

namespace LuServer

/-- The kind of an entity. -/
inductive EntityKind where
  | ml
  | list
  | prebuilt
  | regex
  | composite
  | patternAny
  | phraseList
deriving DecidableEq, Repr, Inhabited

namespace EntityKind

/-- The keyword that a kind is written with. -/
def keyword : EntityKind → Text
  | ml => "ml".toList
  | list => "list".toList
  | prebuilt => "prebuilt".toList
  | regex => "regex".toList
  | composite => "composite".toList
  | patternAny => "pattern.any".toList
  | phraseList => "phraselist".toList

/-- Every kind, in the order in which kinds are suggested. -/
def all : List EntityKind :=
  [ml, prebuilt, list, regex, composite, patternAny, phraseList]

/-- The accepted keywords in lower case: one for each kind, and two further
spellings. -/
def spellings : List (Text × EntityKind) :=
  all.map (fun k => (k.keyword, k))
    ++ [("simple".toList, ml), ("patternany".toList, patternAny)]

/-- The kind that a keyword names; the case of its letters does not matter. -/
def ofKeyword? (word : Text) : Option EntityKind :=
  spellings.lookup word.asciiLower

/-- Kinds that can be named wherever any entity can. -/
def referable : List EntityKind :=
  [ml, list, prebuilt, regex, composite, patternAny]

/-- Kinds that can be part of a composite entity. -/
def composable : List EntityKind :=
  [ml, list, prebuilt, regex, patternAny]

/-- Kinds that can be used as a feature. -/
def featurable : List EntityKind :=
  [ml, list, prebuilt, regex, composite, phraseList]

/-- The names of the prebuilt entities. -/
def prebuiltNames : List Text :=
  ["age", "datetimeV2", "dimension", "email", "geographyV2", "keyPhrase", "money", "number",
    "ordinal", "ordinalV2", "percentage", "personName", "phonenumber", "temperature",
    "url"].map String.toList

/-- Whether a prebuilt entity has this name. -/
def isPrebuiltName (name : Text) : Bool :=
  prebuiltNames.contains name

theorem ofKeyword?_keyword (k : EntityKind) : ofKeyword? k.keyword = some k := by
  cases k <;> decide

end EntityKind

end LuServer
