/-
# Continuation of a block

After a new line is begun the block above it goes on: the line gets a bullet
where one belongs, and a bullet that was opened and left empty is removed.

* `continueBlock`: the edits after a character was typed.
-/
import LuServer.Caret.Slot
import LuServer.Document
import LuServer.Text.Edit

namespace LuServer

namespace Continuation

/-- The character that begins a new line. -/
def trigger : Text :=
  ['\n']

/-- A bullet with nothing after it. -/
def loneBullet : Text :=
  ['-']

/-- The line above line `n`, empty if there is none. -/
def lineAbove (text : Text) : Nat → Text
  | 0 => []
  | n + 1 => (text.line? n).getD []

/-- Whether a line above is one that a bullet can follow. -/
def goesOn (above : Text) : Bool :=
  above.trim ≠ [] ∧ above.trim ≠ loneBullet

/-- Whether the line above line `n` defines an entity that has been declared as
an ml entity by then. -/
def definesMl (text : Text) (n : Nat) : Bool :=
  (Slot.mlName? (lineAbove text n)).any
    ((text.lines.take n).filterMap Slot.mlDeclared?).contains

/-- The bullet that line `n` gets. -/
def bullet? (d : Document) (n : Nat) : Option Text :=
  let above := lineAbove d.text n
  let last : Bool := n + 1 = d.text.lineCount
  match d.modeAt n with
  | .utterance => if goesOn above && last then some "- ".toList else none
  | .mlEntity =>
    if above.trim.endsWith '=' && definesMl d.text n then some "\t-@".toList else none
  | .listEntity =>
    if goesOn above && last then
      some (if above.trim.endsWith ':' || above.trim.endsWith '=' then "\t-".toList
        else "-".toList)
    else none
  | .other => none

/-- The range from an empty bullet above line `n` to the end of line `n`. -/
def abandoned? (text : Text) (n : Nat) : Option Range :=
  if (lineAbove text n).trim = loneBullet then some ⟨⟨n - 1, 0⟩, ⟨n, text.lineWidth n⟩⟩
  else none

end Continuation

/-- The edits after `typed` was typed with the caret at `p`. -/
def continueBlock (d : Document) (p : Position) (typed : Text) : List TextEdit :=
  if typed = Continuation.trigger then
    ((Continuation.bullet? d p.line).map (TextEdit.insertion ⟨p.line, 0⟩)).toList
      ++ ((Continuation.abandoned? d.text p.line).map TextEdit.deletion).toList
  else []

end LuServer
