/-
# TOML trees

The values of a TOML document and the rules on how keys and headers build them:
no key is given twice, a table is opened by at most one header, and what an
inline table or an array holds is complete where it is written.

* `Toml.put`: a value under a key, which can be dotted.
* `Toml.openTable`, `Toml.openElement`: the table that a header opens.
* `Toml.within`: a change inside the table that a header has opened.
-/
import LuServer.Text.Blank

namespace LuServer.Toml

/-- How a table came to be there. -/
inductive Origin where
  /-- By a header for something below it. -/
  | implied
  /-- By a dotted key. -/
  | dotted
  /-- By its own header. -/
  | header
  /-- Written between braces. -/
  | braces
deriving DecidableEq, Repr

/-- A value.  Of floats and dates only the notation is kept. -/
inductive Node where
  | string (value : Text)
  | integer (value : Int)
  | boolean (value : Bool)
  | float (written : Text)
  | datetime (written : Text)
  | array (items : List Node)
  | table (origin : Origin) (entries : List (Text × Node))
  /-- Tables that headers in double brackets have opened, at least one. -/
  | tables (elements : List (List (Text × Node)))

/-- The keys of a table and their values, in the order of the document. -/
abbrev Entries := List (Text × Node)

/-- The entries with another value for a key that has one. -/
def assign (es : Entries) (k : Text) (v : Node) : Entries :=
  es.map fun e => if e.1 = k then (k, v) else e

/-- The entries with a value under a key, which must be new. -/
def putNew (v : Node) (k : Text) (es : Entries) : Option Entries :=
  match es.lookup k with
  | some _ => none
  | none => some (es ++ [(k, v)])

/-- The elements with the last one changed. -/
def changeLast (f : Entries → Option Entries) (elements : List Entries) :
    Option (List Entries) :=
  match elements.getLast? with
  | none => none
  | some last => (f last).map fun next => elements.dropLast ++ [next]

/-- The entries with a value under a dotted key: first the names of the tables
on the way, which the key may create, then the last name.  The value goes into a
table that dotted keys have created. -/
def put (v : Node) (k : Text) : List Text → Entries → Option Entries
  | [], es => putNew v k es
  | name :: rest, es =>
    match es.lookup name with
    | none => (put v k rest []).map fun sub => es ++ [(name, .table .dotted sub)]
    | some (.table .dotted sub) =>
      (put v k rest sub).map fun next => assign es name (.table .dotted next)
    | some (.table .implied sub) =>
      if rest = [] then none
      else (put v k rest sub).map fun next => assign es name (.table .implied next)
    | some (.tables elements) =>
      if rest = [] then none
      else (changeLast (put v k rest) elements).map fun next => assign es name (.tables next)
    | some _ => none

/-- The entries with a change inside the table at a path of names.  Tables on
the way that are not there are implied; of tables in double brackets the last
is meant. -/
def within (f : Entries → Option Entries) : List Text → Entries → Option Entries
  | [], es => f es
  | name :: rest, es =>
    match es.lookup name with
    | none => (within f rest []).map fun sub => es ++ [(name, .table .implied sub)]
    | some (.table .braces _) => none
    | some (.table origin sub) =>
      (within f rest sub).map fun next => assign es name (.table origin next)
    | some (.tables elements) =>
      (changeLast (within f rest) elements).map fun next => assign es name (.tables next)
    | some _ => none

/-- The entries with a table that its header opens. -/
def openTable (k : Text) (es : Entries) : Option Entries :=
  match es.lookup k with
  | none => some (es ++ [(k, .table .header [])])
  | some (.table .implied sub) => some (assign es k (.table .header sub))
  | some _ => none

/-- The entries with one more of the tables that headers in double brackets
open. -/
def openElement (k : Text) (es : Entries) : Option Entries :=
  match es.lookup k with
  | none => some (es ++ [(k, .tables [[]])])
  | some (.tables elements) => some (assign es k (.tables (elements ++ [[]])))
  | some _ => none

end LuServer.Toml
