/-
# Documents

An open document: its text, the modes of its lines, and the version that the
editor gave it.  A new version of the text takes over the modes above the first
changed line.
-/
import LuServer.Mode.Cache

namespace LuServer

/-- A version of a document. -/
structure Document where
  text : Text
  modes : ModeCache
  version : Int
deriving DecidableEq, Repr

namespace Document

/-- A document that is opened with this text. -/
def ofText (text : Text) (version : Int) : Document :=
  ⟨text, .ofText text, version⟩

/-- The next version of a document. -/
def replace (d : Document) (text : Text) (version : Int) : Document :=
  ⟨text, d.modes.update d.text text, version⟩

/-- The mode at line `n`. -/
def modeAt (d : Document) (n : Nat) : Mode :=
  d.modes.modeAt n

end Document

end LuServer
