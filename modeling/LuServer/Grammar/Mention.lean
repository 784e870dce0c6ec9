/-
# Mentions of entities in an utterance

Inside braces an utterance either labels some of its words with an entity,
`{entity=words}`, or, in a pattern, stands for any value of an entity,
`{entity}` or `{entity:role}`.

* `Mention.read`: what the text between two braces says.
* `Mention.all`: the mentions of an utterance from left to right.
-/
import LuServer.Grammar.Fault
import LuServer.Model.Basic

namespace LuServer

/-- What stands between braces in an utterance. -/
inductive Mention where
  /-- Words labelled with an entity. -/
  | label (name : Text)
  /-- A place for a value of an entity. -/
  | reference (target : PatternReference)
deriving DecidableEq, Repr

namespace Mention

/-- A text without the `@` signs at its start. -/
def dropSigns (t : Text) : Text :=
  t.dropWhile (· == '@')

/-- The mention that the text between two braces makes. -/
def read (span : Text) : Except Fault Mention :=
  let s := span.trim
  if s = [] then .error .emptySpan
  else match s.cutAt '=' with
    | some (key, words) =>
      let name := ((dropSigns key.trim).trim.upTo ':').trim
      if name = [] then .error (.unnamedLabel s)
      else if words.trim = [] then .error (.emptyLabel s)
      else .ok (.label name)
    | none =>
      let (key, role) := match s.cutAt ':' with
        | some (key, role) => (key.trim, some role.trim)
        | none => (s, none)
      let name := (dropSigns key).trim
      if name = [] ∨ role = some [] then .error (.malformedReference s)
      else .ok (.reference ⟨name, role⟩)

/-- The mentions in what is left of `utterance`; `span` holds what has been read
since a brace was opened. -/
def scan (utterance : Text) : Option Text → Text → Except Fault (List Mention)
  | none, [] => .ok []
  | some _, [] => .error (.unclosedBrace utterance)
  | none, c :: rest =>
    if c = '{' then scan utterance (some []) rest
    else if c = '}' then .error (.unopenedBrace utterance)
    else scan utterance none rest
  | some span, c :: rest =>
    if c = '{' then .error (.nestedBrace utterance)
    else if c = '}' then do
      let mention ← read span
      let others ← scan utterance none rest
      return mention :: others
    else scan utterance (some (span ++ [c])) rest

/-- The mentions of an utterance from left to right.  An utterance has some
text. -/
def all (utterance : Text) : Except Fault (List Mention) :=
  if utterance = [] then .error .emptyUtterance else scan utterance none utterance

/-- The names that label words. -/
def labels (ms : List Mention) : List Text :=
  ms.filterMap fun
    | label name => some name
    | reference _ => none

/-- The places for values. -/
def references (ms : List Mention) : List PatternReference :=
  ms.filterMap fun
    | label _ => none
    | reference target => some target

end Mention

end LuServer
