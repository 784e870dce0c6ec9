/-
# Sessions

A session is everything between an editor and the server.  Messages are handled
one at a time on a clock that moves only while the session waits.  Before it is
initialized and after it is shut down the server heeds no notification, but
validations that wait at the shutdown are still published.  Once it has ended
the server answers nothing and sends nothing.

* `Session.request`: the answer to a request.
* `Session.notify`: the effect of a notification.
* `Session.wait`: the passing of time.
* `Session.run`: messages one after the other.
-/
import LuServer.Caret.Continuation
import LuServer.Caret.Label
import LuServer.Session.Message
import LuServer.Settings

namespace LuServer

/-- How far a session is. -/
inductive Phase where
  | fresh
  | running
  | stopped
  | ended
deriving DecidableEq, Repr

/-- The state of a session. -/
structure Session where
  phase : Phase := .fresh
  settings : Settings := .standard
  store : Store := .empty
  debounce : Debounce := {}
  /-- Texts read to answer questions. -/
  answerParses : Nat := 0
deriving Repr

namespace Session

/-- All texts read so far. -/
def parses (s : Session) : Nat :=
  s.debounce.parses + s.answerParses

/-- The session after an operation on its validations, and what is published. -/
def validate (s : Session) (op : DebounceOp) : Session × List Broadcast :=
  let result := s.debounce.step op
  ({ s with debounce := result.state },
    if s.phase = .ended then [] else result.published.map .diagnostics)

/-- The directory of a workspace: that of its first folder if it is local, else
that of its root. -/
def workspaceDirectory? (folders : List Url) (root : Option Url) : Option Path :=
  ((folders.head?.bind Url.localPath?).or (root.bind Url.localPath?)).map Path.ofBytes

/-- The settings of a workspace. -/
def settingsFor (tree : FileTree) (folders : List Url) (root : Option Url) : Settings :=
  match workspaceDirectory? folders root with
  | some dir => (Settings.discover tree dir).1
  | none => .standard

/-- The validation of a text after the quiet time of the settings. -/
def scheduled (s : Session) (uri : Uri) (text : Text) (version : Int) : DebounceOp :=
  .schedule uri text version s.settings.debounce s.settings.locale

/-- The session after a notification, and what it sends. -/
def notify (s : Session) (n : Notification) : Session × List Broadcast :=
  if s.phase = .running then
    match n with
    | .initialized => (s, [.greeting s.debounce.now])
    | .opened uri text version =>
      { s with store := s.store.openDocument uri text version }.validate
        (s.scheduled uri text version)
    | .changed uri version texts =>
      match texts.getLast? with
      | none => (s, [])
      | some text =>
        { s with store := s.store.update uri text version }.validate
          (s.scheduled uri text version)
    | .closed uri => { s with store := s.store.close uri }.validate (.close uri)
  else (s, [])

/-- The answer to a question about an open document, with the readings for it,
and what is sent besides. -/
def consult (s : Session) (d : Document) : Question → Counted Reply × List Broadcast
  | .complete _ p =>
    let found := complete d.text p s.settings.locale
    (⟨.items found.value, found.parses⟩, [])
  | .format _ p typed => (⟨.edits (continueBlock d p typed), 0⟩, [])
  | .unlabel _ number =>
    (⟨.nothing, 0⟩,
      ((unlabelledCopies? d.text number).map (Broadcast.unlabelled s.debounce.now)).toList)

/-- The document that a question is about. -/
def subject : Question → Uri
  | .complete uri _ => uri
  | .format uri _ _ => uri
  | .unlabel uri _ => uri

/-- The answer to a question; about a document that is not open there is
none. -/
def answer (s : Session) (q : Question) : Counted Reply × List Broadcast :=
  match s.store.get? (subject q) with
  | none => (⟨.nothing, 0⟩, [])
  | some d => s.consult d q

/-- The refusal of a request that only a running server answers. -/
def notRunning : Phase → Refusal
  | .stopped => .invalidRequest
  | _ => .notInitialized

end Session

/-! ## Whole sessions -/

/-- One thing that happens in a session. -/
inductive Message where
  | request (r : Request)
  | notification (n : Notification)
  | wait (duration : Nat)
deriving DecidableEq, Repr

/-- What a message leads to. -/
structure SessionStep where
  state : Session
  reply : Option Reply := none
  sent : List Broadcast := []
deriving Repr

namespace Session

/-- A refusal, which changes nothing. -/
def refuse (s : Session) (reason : Refusal) : SessionStep :=
  { state := s, reply := some (.refused reason) }

/-- The step of a running server on a request; otherwise the request is
refused. -/
def whenRunning (s : Session) (step : SessionStep) : SessionStep :=
  if s.phase = .running then step else s.refuse (notRunning s.phase)

/-- The start of a session in a workspace. -/
def setUp (tree : FileTree) (s : Session) (workspace : Option (List Url × Option Url)) :
    SessionStep :=
  if s.phase = .fresh then
    match workspace with
    | none => s.refuse .invalidParams
    | some (folders, root) =>
      { state := { s with phase := .running, settings := settingsFor tree folders root }
        reply := some .capabilities }
  else s.refuse .invalidRequest

/-- The step on a question, if it is understood. -/
def ask (s : Session) : Option Question → SessionStep
  | none => s.refuse .invalidParams
  | some q =>
    let (reply, sent) := s.answer q
    { state := { s with answerParses := s.answerParses + reply.parses }
      reply := some reply.value
      sent }

/-- The step on a request. -/
def request (tree : FileTree) (s : Session) (r : Request) : SessionStep :=
  if s.phase = .ended then { state := s }
  else match r with
    | .setUp workspace => s.setUp tree workspace
    | .shutdown understood =>
      s.whenRunning
        { state := { s with phase := .stopped }
          reply := some (if understood then .nothing else .refused .invalidParams) }
    | .ask question => s.whenRunning (s.ask question)
    | .unsupported understood =>
      s.whenRunning (s.refuse (if understood then .methodNotFound else .invalidParams))
    | .notice => s.whenRunning (s.refuse .invalidRequest)
    | .cancellation => s.refuse .invalidRequest
    | .exit => { state := { s with phase := .ended } }
    | .optional => { state := s }
    | .unknown => s.refuse .methodNotFound

/-- The session after some time, and what is published in it. -/
def wait (s : Session) (duration : Nat) : Session × List Broadcast :=
  s.validate (.wait duration)

/-- The step on a message. -/
def step (tree : FileTree) (s : Session) : Message → SessionStep
  | .request r => s.request tree r
  | .notification n =>
    let (next, sent) := s.notify n
    { state := next, sent }
  | .wait duration =>
    let (next, sent) := s.wait duration
    { state := next, sent }

/-- Messages one after the other. -/
def run (tree : FileTree) (s : Session) : List Message → List SessionStep
  | [] => []
  | m :: ms => s.step tree m :: (s.step tree m).state.run tree ms

end Session

end LuServer
