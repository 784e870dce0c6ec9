/-
# Faults of a line

Why a line of an LU document is rejected.  Each cause carries what its wording
quotes; `Fault.message` is the one place where the wording stands.
-/
import LuServer.Model.Kind

namespace LuServer

/-- A reason to reject a line. -/
inductive Fault where
  /-- The line is of no known form. -/
  | unrecognizedLine (line : Text)
  /-- A header without a name. -/
  | missingIntentName
  /-- A header that asks a question instead of naming an intent. -/
  | questionHeader (name : Text)
  /-- An `@` with nothing after it. -/
  | emptyDefinition
  /-- A quoted name without its second quote. -/
  | unclosedQuote (text : Text)
  /-- A name with characters that names cannot have. -/
  | invalidName (name : Text)
  /-- Words between a name and its first modifier. -/
  | unexpectedWords (text : Text)
  /-- A modifier without names. -/
  | emptyModifier (word : Text)
  /-- An intent definition without a name. -/
  | missingDefinedIntent
  /-- Roles given to an intent. -/
  | intentWithRoles (name : Text)
  /-- A value given to an intent. -/
  | intentWithValue (name : Text)
  /-- A definition with a kind and no name. -/
  | missingEntityName (kind : EntityKind)
  /-- A prebuilt entity that does not exist. -/
  | unknownPrebuilt (name : Text)
  /-- A first word that is no kind, on a line that declares nothing else. -/
  | unknownKind (name : Text)
  /-- Values of a list entity on the line of its definition. -/
  | inlineListValues (name : Text)
  /-- Children of an ml entity on the line of its definition. -/
  | inlineChildren (name : Text)
  /-- A pattern that is not between slashes. -/
  | unslashedPattern (body : Text)
  /-- Parts of a composite entity that are not between brackets. -/
  | unbracketedParts (body : Text)
  /-- A value for an entity of a kind that has none. -/
  | unexpectedValue (kind : EntityKind) (name : Text)
  /-- A bullet outside of any block. -/
  | strayItem
  /-- A bullet of a phrase list without phrases. -/
  | emptyPhrase
  /-- An utterance without text. -/
  | emptyUtterance
  /-- A brace opened inside another. -/
  | nestedBrace (utterance : Text)
  /-- A brace closed that was not opened. -/
  | unopenedBrace (utterance : Text)
  /-- A brace that is not closed. -/
  | unclosedBrace (utterance : Text)
  /-- Braces with nothing between them. -/
  | emptySpan
  /-- A label without the name of an entity. -/
  | unnamedLabel (span : Text)
  /-- A label without the labelled words. -/
  | emptyLabel (span : Text)
  /-- A mention of an entity without its name, or with an empty role. -/
  | malformedReference (span : Text)
  /-- A list value without text. -/
  | missingCanonical
  /-- A synonym without text. -/
  | emptySynonym
  /-- A synonym before the first value of its list. -/
  | strayValue (synonym : Text)
  /-- A bullet of an ml entity that declares no child. -/
  | notAChild (content : Text)
  /-- A child without anything after its `@`. -/
  | unnamedChild
  /-- A child with a kind and no name. -/
  | missingChildName (kind : EntityKind)
deriving DecidableEq, Repr

namespace Fault

/-- A text between single quotes. -/
def quoted (t : Text) : String :=
  "'" ++ String.ofList t ++ "'"

/-- A text between braces, between single quotes. -/
def quotedSpan (t : Text) : String :=
  "'\x7b" ++ String.ofList t ++ "\x7d'"

/-- The keyword of a kind, as a word of a message. -/
def kindName (k : EntityKind) : String :=
  String.ofList k.keyword

/-- The wording of a fault. -/
def message : Fault → String
  | unrecognizedLine line => "Invalid input: unrecognized line " ++ quoted line
  | missingIntentName => "Invalid intent: missing intent name"
  | questionHeader name =>
    "Invalid intent: " ++ quoted name ++ " is a QnA question, not an intent"
  | emptyDefinition => "Invalid entity definition: missing entity type and name"
  | unclosedQuote text => "Invalid entity name: missing closing quote in " ++ quoted text
  | invalidName name => "Invalid entity name " ++ quoted name
  | unexpectedWords text => "Invalid entity definition: unexpected " ++ quoted text
  | emptyModifier word =>
    "Invalid entity definition: " ++ quoted word ++ " requires at least one name"
  | missingDefinedIntent => "Invalid intent definition: missing intent name"
  | intentWithRoles name =>
    "Invalid intent definition: intent " ++ quoted name ++ " cannot have roles"
  | intentWithValue name =>
    "Invalid intent definition: unexpected value for intent " ++ quoted name
  | missingEntityName kind =>
    "Invalid " ++ kindName kind ++ " entity definition: missing entity name"
  | unknownPrebuilt name => "Unknown prebuilt entity " ++ quoted name
  | unknownKind name => "Invalid entity definition: unknown entity type " ++ quoted name
  | inlineListValues name =>
    "Invalid list entity definition: values of " ++ quoted name
      ++ " must be listed on the following lines"
  | inlineChildren name =>
    "Invalid ml entity definition: children of " ++ quoted name
      ++ " must be listed on the following lines"
  | unslashedPattern body =>
    "Invalid regex entity definition: pattern " ++ quoted body ++ " must be enclosed in '/'"
  | unbracketedParts body =>
    "Invalid composite entity definition: children " ++ quoted body
      ++ " must be enclosed in '[' and ']'"
  | unexpectedValue kind name =>
    "Invalid " ++ kindName kind ++ " entity definition: unexpected value for " ++ quoted name
  | strayItem => "Invalid input: list item must follow an intent or entity definition"
  | emptyPhrase => "Invalid phrase list value: value is empty"
  | emptyUtterance => "Invalid utterance: utterance text is empty"
  | nestedBrace utterance => "Invalid utterance: nested '\x7b' in " ++ quoted utterance
  | unopenedBrace utterance => "Invalid utterance: unbalanced '\x7d' in " ++ quoted utterance
  | unclosedBrace utterance => "Invalid utterance: unbalanced '\x7b' in " ++ quoted utterance
  | emptySpan => "Invalid utterance: empty entity reference '\x7b\x7d'"
  | unnamedLabel span =>
    "Invalid labeled utterance: missing entity name in " ++ quotedSpan span
  | emptyLabel span =>
    "Invalid labeled utterance: missing labeled value in " ++ quotedSpan span
  | malformedReference span =>
    "Invalid pattern: malformed entity reference " ++ quotedSpan span
  | missingCanonical => "Invalid list entity value: missing normalized value"
  | emptySynonym => "Invalid list entity value: synonym is empty"
  | strayValue synonym =>
    "Invalid list entity value: synonym " ++ quoted synonym
      ++ " has no normalized value; end the value line with ':'"
  | notAChild content =>
    "Invalid child entity definition: expected '- @ <type> <name>', found " ++ quoted content
  | unnamedChild => "Invalid child entity definition: missing entity name"
  | missingChildName kind =>
    "Invalid child entity definition: missing " ++ kindName kind ++ " entity name"

end Fault

end LuServer
