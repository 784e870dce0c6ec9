/-
# Line modes

An LU document has no block delimiters: what a bullet line means depends on the
last header or definition above it.  The mode at a line is found by reading the
lines before it, one after the other.

* `Mode.advance`: the mode after one more line.
* `Mode.afterLines`, `Mode.classify`: the mode after some lines, and at a line of
  a text.
-/
import LuServer.Text.Cut
import LuServer.Text.Lines

namespace LuServer

/-- What the lines of the block at hand are. -/
inductive Mode where
  /-- Example utterances of an intent. -/
  | utterance
  /-- Values and synonyms of a list entity. -/
  | listEntity
  /-- Children of an ml entity. -/
  | mlEntity
  | other
deriving DecidableEq, Repr, Inhabited

namespace Mode

/-- Whether a text stays on one line. -/
def isOneLine (t : Text) : Bool :=
  !t.contains '\n'

/-- The text after the sign `c`, when that is the first thing on the line. -/
def afterSign? (c : Char) (line : Text) : Option Text :=
  (line.trimStart).dropHead? c

/-- Whether a line starts with the sign `c`. -/
def startsWith (c : Char) (line : Text) : Bool :=
  (afterSign? c line).any isOneLine

/-- Whether a line starts with `@` and the letters of `word`. -/
def opens (word : Text) (line : Text) : Bool :=
  match afterSign? '@' line with
  | none => false
  | some rest => (rest.trimStart.dropStart? word).any fun tail => isOneLine tail.trimStart

/-- The mode after reading `line` in mode `m`: headers and openers change it,
bullets, definitions and comments keep it, anything else ends the block. -/
def advance (m : Mode) (line : Text) : Mode :=
  if opens "list".toList line then listEntity
  else if startsWith '#' line then utterance
  else if opens "ml".toList line then mlEntity
  else if startsWith '-' line || startsWith '@' line || (afterSign? '>' line).isSome then m
  else other

/-- The mode after reading `ls` in mode `m`. -/
def afterLines (m : Mode) (ls : List Text) : Mode :=
  ls.foldl advance m

/-- The mode at line `n` of a text, from a scan of every line before it. -/
def classify (t : Text) (n : Nat) : Mode :=
  afterLines other (t.lines.take n)

@[simp] theorem afterLines_nil (m : Mode) : afterLines m [] = m := rfl

@[simp] theorem afterLines_cons (m : Mode) (l : Text) (ls : List Text) :
    afterLines m (l :: ls) = afterLines (m.advance l) ls := rfl

@[simp] theorem afterLines_append (m : Mode) (ls ms : List Text) :
    afterLines m (ls ++ ms) = afterLines (afterLines m ls) ms :=
  List.foldl_append

end Mode

end LuServer
