/-
# Names of entities

A name is one or more words of word characters, periods and hyphens, with
blanks between them.  At the start of a text a name is its first word, or what
stands between a pair of double quotes.

* `Name.isValid`: the texts that are names.
* `Name.split`: the name at the start of a text and the rest.
-/
import LuServer.Text.Word
import LuServer.Grammar.Fault

namespace LuServer.Name

/-- Characters of the words that names consist of. -/
def isNameChar (c : Char) : Bool :=
  Text.isWord c || c == '.' || c == '-'

/-- Whether a text is a name: it has no other characters than blanks and those
of names, and begins and ends with one of the latter. -/
def isValid (t : Text) : Bool :=
  t.all (fun c => isNameChar c || Text.isBlank c)
    && t.head?.any isNameChar && t.getLast?.any isNameChar

/-- A text, if it is a name. -/
def check (t : Text) : Except Fault Unit :=
  if isValid t then .ok () else .error (.invalidName t)

/-- The name at the start of a text, quoted or one word, and the rest. -/
def split (t : Text) : Except Fault (Text × Text) :=
  let s := t.trim
  match s.dropHead? '"' with
  | none => .ok s.nextWord
  | some r =>
    match r.cutAt '"' with
    | none => .error (.unclosedQuote s)
    | some (name, rest) => .ok (name.trim, rest.trim)

end LuServer.Name
