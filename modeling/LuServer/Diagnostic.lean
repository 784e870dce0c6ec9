/-
# Diagnostics

What the editor shows of a document's faults and problems.  A rejected line is
marked over its whole width; problems of the model have no place in the text
and are marked at its start.

* `Diagnostic.ofComplaint`: the diagnostic for a fault of the text.
* `Diagnostic.ofProblem`: the diagnostic for a problem of the model.
* `diagnose`: every diagnostic of a text.
-/
import LuServer.Counted
import LuServer.Model.Problem

namespace LuServer

/-- A marked stretch of a text with its message. -/
structure Diagnostic where
  range : Range
  message : String
deriving DecidableEq, Repr

/-- A fault of a text as its reader reports it, with lines counted from 1. -/
structure Complaint where
  startLine : Nat
  startCharacter : Nat
  endLine : Nat
  endCharacter : Nat
  message : String
deriving DecidableEq, Repr

namespace SyntaxError

/-- The report of a rejected line covers its whole width. -/
def complaint (e : SyntaxError) : Complaint :=
  ⟨e.line, 0, e.line, e.width, e.fault.message⟩

/-- The summary of `n` rejected lines. -/
def summary (n : Nat) : String :=
  toString n ++ " syntax error(s) in LU content"

end SyntaxError

namespace Problem

/-- The summary of `n` problems. -/
def summary (n : Nat) : String :=
  toString n ++ " schema problem(s) in LU model"

end Problem

namespace Diagnostic

/-- The severity of every diagnostic: an error. -/
def severity : Nat :=
  1

/-- The name of the reader that finds the faults. -/
def source : String :=
  "lu"

/-- The diagnostic for a reported fault; editors count lines from 0. -/
def ofComplaint (c : Complaint) : Diagnostic :=
  ⟨⟨⟨c.startLine - 1, c.startCharacter⟩, ⟨c.endLine - 1, c.endCharacter⟩⟩, c.message⟩

/-- The diagnostic for a message without a place. -/
def atStart (message : String) : Diagnostic :=
  ⟨.ofLine 0 1, message⟩

/-- The diagnostic for a problem of the model. -/
def ofProblem (p : Problem) : Diagnostic :=
  atStart p.message

end Diagnostic

/-- Every diagnostic of a text.  An empty text is not even read, and the model
is only looked at when no line is rejected. -/
def diagnose (text culture : Text) : Counted (List Diagnostic) :=
  if text = [] then pure []
  else do
    match ← Counted.parse text culture with
    | .error errors => return errors.map fun e => .ofComplaint e.complaint
    | .ok m => return m.problems.map .ofProblem

end LuServer
