/-
# Debounced validation

A document is validated once it has been quiet for a while.  Every call starts a
task that sleeps until its validation is due; the table of waiting validations
says which task is the right one for a document.  Each change replaces the entry
of its document and aborts the task behind it; a task that wakes up publishes
only if the entry is still its own.  The clock moves only when the caller says
so, and every task that is due by then wakes up.

* `Debounce.schedule`, `Debounce.cancel`: changes to what waits.
* `Debounce.wake`, `Debounce.settle`: publication of what is due.
* `Debounce.step`: one operation, with everything due at its end.
* `Debounce.run`: operations one after the other.
-/
import LuServer.Diagnostic
import LuServer.Document.Store

namespace LuServer

/-- A validation of a document that waits for its time. -/
structure Validation where
  uri : Uri
  text : Text
  culture : Text
  version : Int
  due : Nat
deriving DecidableEq, Repr

/-- A task that sleeps until its validation is due. -/
structure Sleeper where
  /-- The number of the task, which no other task has. -/
  number : Nat
  /-- The count of calls, modulo `2 ^ 64`, at the call that started it. -/
  generation : UInt64
  validation : Validation
deriving DecidableEq, Repr

/-- The document that a task is for. -/
abbrev Sleeper.uri (s : Sleeper) : Uri :=
  s.validation.uri

/-- The entry of a document that waits: the generation whose turn it is, and the
number of its task. -/
structure Ticket where
  generation : UInt64
  task : Nat
deriving DecidableEq, Repr

/-- Diagnostics sent to the editor.  Those of a closed document have no
version. -/
structure Publication where
  time : Nat
  uri : Uri
  version : Option Int
  diagnostics : List Diagnostic
deriving DecidableEq, Repr

/-- The clock, what waits, and how many texts have been read. -/
structure Debounce where
  now : Nat := 0
  /-- The generation of the next call. -/
  generation : UInt64 := 0
  /-- The number of the next task. -/
  started : Nat := 0
  pending : Table Uri Ticket := .empty
  sleeping : List Sleeper := []
  parses : Nat := 0
deriving Repr

/-- An operation on the waiting validations. -/
inductive DebounceOp where
  | schedule (uri : Uri) (text : Text) (version : Int) (delay : Nat) (culture : Text)
  | cancel (uri : Uri)
  | close (uri : Uri)
  /-- The question whether a validation waits. -/
  | ask (uri : Uri)
  | wait (duration : Nat)
deriving DecidableEq, Repr

/-- What an operation leads to: the new state, the answer to a question, and
what is published. -/
structure DebounceStep where
  state : Debounce
  answer : Option Bool
  published : List Publication
deriving Repr

namespace Debounce

/-- Whether a validation waits for a document. -/
def isPending (d : Debounce) (uri : Uri) : Bool :=
  d.pending.contains uri

/-- A task that is aborted does not wake up. -/
def abort (d : Debounce) (task : Nat) : Debounce :=
  { d with sleeping := d.sleeping.filter fun s => s.number ≠ task }

/-- A task for a call falls asleep and takes over the entry of its document. -/
def spawn (d : Debounce) (v : Validation) : Debounce :=
  { d with
    generation := d.generation + 1
    started := d.started + 1
    pending := d.pending.insert v.uri ⟨d.generation, d.started⟩
    sleeping := d.sleeping ++ [⟨d.started, d.generation, v⟩] }

/-- A validation is to run after `delay`; the task of an older one is
aborted. -/
def schedule (d : Debounce) (uri : Uri) (text : Text) (version : Int) (delay : Nat)
    (culture : Text) : Debounce :=
  let spawned := d.spawn ⟨uri, text, culture, version, d.now + delay⟩
  match d.pending.get? uri with
  | some superseded => spawned.abort superseded.task
  | none => spawned

/-- The validation that waits for a document is forgotten. -/
def cancel (d : Debounce) (uri : Uri) : Debounce :=
  match d.pending.get? uri with
  | some ticket => { d.abort ticket.task with pending := d.pending.erase uri }
  | none => d

/-- The empty list that clears the diagnostics of a closed document. -/
def cleared (d : Debounce) (uri : Uri) : Publication :=
  ⟨d.now, uri, none, []⟩

/-- The clock moves on. -/
def advance (d : Debounce) (duration : Nat) : Debounce :=
  { d with now := d.now + duration }

/-- Earlier validations come first; at one time the names decide. -/
def before (a b : Sleeper) : Bool :=
  a.validation.due < b.validation.due ||
    (a.validation.due == b.validation.due && decide (a.uri ≤ b.uri))

/-- The tasks whose time has come, in the order in which they wake up. -/
def due (d : Debounce) : List Sleeper :=
  (d.sleeping.filter fun s => s.validation.due ≤ d.now).mergeSort before

/-- What a validation finds. -/
def outcome (v : Validation) : Publication :=
  ⟨v.due, v.uri, some v.version, (diagnose v.text v.culture).value⟩

/-- The texts that a validation reads. -/
def cost (v : Validation) : Nat :=
  (diagnose v.text v.culture).parses

/-- A task wakes up.  It takes the entry of its document and publishes, unless
a newer call has taken over the document. -/
def wake (d : Debounce) (s : Sleeper) : Debounce × List Publication :=
  match d.pending.get? s.uri with
  | some ticket =>
    if ticket.generation = s.generation then
      ({ d with
          pending := d.pending.erase s.uri
          parses := d.parses + cost s.validation },
        [outcome s.validation])
    else (d, [])
  | none => (d, [])

/-- Tasks wake up one after the other. -/
def wakeAll (d : Debounce) : List Sleeper → Debounce × List Publication
  | [] => (d, [])
  | s :: ss =>
    let (next, published) := d.wake s
    let (last, more) := next.wakeAll ss
    (last, published ++ more)

/-- Everything due wakes up. -/
def settle (d : Debounce) : Debounce × List Publication :=
  { d with sleeping := d.sleeping.filter fun s => d.now < s.validation.due }.wakeAll d.due

/-- The change that an operation makes, before anything due wakes up. -/
def act (d : Debounce) : DebounceOp → Debounce
  | .schedule uri text version delay culture => d.schedule uri text version delay culture
  | .cancel uri => d.cancel uri
  | .close uri => d.cancel uri
  | .ask _ => d
  | .wait duration => d.advance duration

/-- The answer that an operation gives. -/
def answer (d : Debounce) : DebounceOp → Option Bool
  | .cancel uri => some (d.isPending uri)
  | .ask uri => some (d.isPending uri)
  | _ => none

/-- What an operation publishes by itself. -/
def announce (d : Debounce) : DebounceOp → List Publication
  | .close uri => [d.cleared uri]
  | _ => []

/-- One operation, with everything due at its end. -/
def step (d : Debounce) (op : DebounceOp) : DebounceStep :=
  let (state, published) := (d.act op).settle
  ⟨state, d.answer op, d.announce op ++ published⟩

/-- Operations one after the other. -/
def run (d : Debounce) : List DebounceOp → List DebounceStep
  | [] => []
  | op :: ops => d.step op :: (d.step op).state.run ops

/-- The documents that a validation waits for, in order. -/
def waiting (d : Debounce) : List Uri :=
  d.pending.keys.mergeSort fun a b => decide (a ≤ b)

end Debounce

end LuServer
