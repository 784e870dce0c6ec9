/-
# Labelled utterances

An utterance can label some of its words: `- book a {time=5pm} flight`.  The
editor can ask for the same utterance without its labels, above and below the
labelled one.

* `Label.words?`: the labelled words of the text between two braces.
* `Label.strip?`: an utterance without its labels.
* `unlabelledCopies?`: the edits that insert the copies.
-/
import LuServer.Text.Cut
import LuServer.Text.Edit
import LuServer.Text.Word

namespace LuServer

namespace Label

/-- Characters of the part before the equals sign. -/
def isKeyChar (c : Char) : Bool :=
  Text.isDotted c || c == '@' || c == ':' || Text.isBlank c

/-- The labelled words of the text between two braces: a key, an equals sign,
and one word.  A period counts as part of a word. -/
def words? (span : Text) : Option Text :=
  match span.cutAt '=' with
  | none => none
  | some (key, rest) =>
    let words := rest.trimStart
    if key ≠ [] ∧ key.all isKeyChar = true ∧ words ≠ [] ∧ words.all Text.isDotted = true then
      some words
    else none

/-- A text with each label replaced by its words, if all braces in it are those
of labels; `span` holds what has been read since a brace was opened. -/
def replace? : Option Text → Text → Option Text
  | none, [] => some []
  | some _, [] => none
  | none, c :: rest =>
    if c = '{' then replace? (some []) rest
    else if c = '}' then none
    else (replace? none rest).map (c :: ·)
  | some span, c :: rest =>
    if c = '{' then none
    else if c = '}' then do
      let words ← words? span
      let others ← replace? none rest
      return words ++ others
    else replace? (some (span ++ [c])) rest

/-- A line without its labels, if it is an utterance with at least one. -/
def strip? (line : Text) : Option Text :=
  match line.trimStart with
  | [] => none
  | c :: rest =>
    if c = '-' ∧ rest.contains '{' = true then
      (replace? none rest).map fun plain => line.takeWhile Text.isBlank ++ c :: plain
    else none

end Label

/-- The edits that put a copy without labels above and below line `number`,
counted from 1, if that line has labels. -/
def unlabelledCopies? (text : Text) (number : Nat) : Option (List TextEdit) :=
  match number with
  | 0 => none
  | n + 1 => do
    let line ← text.line? n
    let plain ← Label.strip? line
    return [.insertion ⟨n, 0⟩ (plain ++ ['\n']), .insertion ⟨n, line.width⟩ ('\n' :: plain)]

end LuServer
