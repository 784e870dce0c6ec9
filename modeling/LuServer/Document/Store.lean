/-
# The open documents

* `Store.openDocument`: a document is opened afresh.
* `Store.update`: a document gets a new text; one that is not open is opened.
* `Store.close`: a document is forgotten.
* `Store.apply`, `Store.run`: changes as values, one after the other.
-/
import LuServer.Document
import LuServer.Table

namespace LuServer

/-- The name of a document.  Names are only compared. -/
abbrev Uri := String

/-- The open documents by name. -/
abbrev Store := Table Uri Document

/-- A change of the open documents. -/
inductive StoreOp where
  | openDocument (uri : Uri) (text : Text) (version : Int)
  | update (uri : Uri) (text : Text) (version : Int)
  | close (uri : Uri)
deriving DecidableEq, Repr

namespace Store

/-- The store with a document opened; an older version is replaced. -/
def openDocument (s : Store) (uri : Uri) (text : Text) (version : Int) : Store :=
  s.insert uri (.ofText text version)

/-- The store with a new text for a document. -/
def update (s : Store) (uri : Uri) (text : Text) (version : Int) : Store :=
  let current := (s.get? uri).getD (.ofText [] version)
  s.insert uri (current.replace text version)

/-- The store without a document. -/
def close (s : Store) (uri : Uri) : Store :=
  s.erase uri

/-- The store after a change. -/
def apply (s : Store) : StoreOp → Store
  | .openDocument uri text version => s.openDocument uri text version
  | .update uri text version => s.update uri text version
  | .close uri => s.close uri

/-- The store after some changes. -/
def run (s : Store) (ops : List StoreOp) : Store :=
  ops.foldl apply s

end Store

end LuServer
