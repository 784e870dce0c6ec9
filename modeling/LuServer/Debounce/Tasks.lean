/-
# Validations as tasks

Where everything runs at once, what `Debounce.step` does in one go takes separate steps.  A
task wakes up some time after its validation is due; in one step it takes its entry out of
the table of waiting validations, provided that the entry is still its own; and some time
later its diagnostics reach the editor.  A close removes the entry at once, and its empty list
too is sent some time later.  Between these steps anything else can happen, and a task that is
aborted may not notice.

* `Tasks.step`: one step of a caller, of a task or of a message.
* `Tasks.run`: the outcome of steps in any order.
-/
import LuServer.Debounce

namespace LuServer

/-- The tasks that an operation aborts. -/
def Debounce.aborted (d : Debounce) (op : DebounceOp) : List Sleeper :=
  d.sleeping.filter fun t => t ∉ (d.act op).sleeping

/-- A publication on its way to the editor. -/
structure Delivery where
  /-- The number of the call that asked for the diagnostics, or how many calls came before
  the close. -/
  call : Nat
  publication : Publication
deriving DecidableEq, Repr

/-- Whether a delivery has the diagnostics of a call, and is not the empty list of a close. -/
def Delivery.isResult (m : Delivery) : Bool :=
  m.publication.version.isSome

/-- The document that a delivery is about. -/
abbrev Delivery.uri (m : Delivery) : Uri :=
  m.publication.uri

/-- What the tasks share, the tasks that no longer sleep, and the messages. -/
structure Tasks where
  debounce : Debounce := {}
  /-- Tasks that have looked for their entry, and tasks that have been stopped. -/
  past : List Sleeper := []
  /-- Messages that have yet to reach the editor. -/
  underway : List Delivery := []
  /-- What has reached the editor, in order. -/
  delivered : List Delivery := []
deriving Repr

/-- A step of a caller, of a task or of a message. -/
inductive TaskStep where
  /-- An operation; `heeded` says whether the task that it aborts stops. -/
  | act (op : DebounceOp) (heeded : Bool)
  /-- The task with a number wakes up and looks for its entry. -/
  | wake (number : Nat)
  /-- The message at a place reaches the editor. -/
  | deliver (place : Nat)
deriving DecidableEq, Repr

namespace Tasks

/-- All tasks so far. -/
def tasks (s : Tasks) : List Sleeper :=
  s.debounce.sleeping ++ s.past

/-- The number of calls so far. -/
abbrev calls (s : Tasks) : Nat :=
  s.debounce.started

/-- A caller's operation.  The message of a close is only sent off. -/
def act (s : Tasks) (op : DebounceOp) (heeded : Bool) : Tasks :=
  let aborted := s.debounce.aborted op
  let next := s.debounce.act op
  { s with
    debounce := if heeded then next else { next with sleeping := next.sleeping ++ aborted }
    past := if heeded then s.past ++ aborted else s.past
    underway := s.underway ++ (s.debounce.announce op).map (Delivery.mk s.calls) }

/-- A task looks for its entry.  If it finds it, its message is sent off. -/
def wake (s : Tasks) (t : Sleeper) : Tasks :=
  let (next, published) := s.debounce.wake t
  { s with
    debounce := { next with sleeping := next.sleeping.filter fun r => r ≠ t }
    past := s.past ++ [t]
    underway := s.underway ++ published.map (Delivery.mk t.number) }

/-- The message at a place, if there is one, reaches the editor. -/
def deliver (s : Tasks) (place : Nat) : Tasks :=
  { s with
    underway := s.underway.eraseIdx place
    delivered := s.delivered ++ s.underway[place]?.toList }

/-- One step.  A step that cannot be taken changes nothing. -/
def step (s : Tasks) : TaskStep → Tasks
  | .act op heeded => s.act op heeded
  | .wake number =>
    match s.debounce.sleeping.find? fun t =>
        t.number = number ∧ t.validation.due ≤ s.debounce.now with
    | some t => s.wake t
    | none => s
  | .deliver place => s.deliver place

/-- The outcome of some steps. -/
def run (s : Tasks) (steps : List TaskStep) : Tasks :=
  steps.foldl step s

@[simp] theorem run_nil (s : Tasks) : s.run [] = s := rfl

@[simp] theorem run_cons (s : Tasks) (a : TaskStep) (as : List TaskStep) :
    s.run (a :: as) = (s.step a).run as := rfl

theorem run_append (s : Tasks) (as bs : List TaskStep) :
    s.run (as ++ bs) = (s.run as).run bs :=
  List.foldl_append

end Tasks

end LuServer
