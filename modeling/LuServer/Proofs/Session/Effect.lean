/-
# What a message can do

A message changes the documents of a session and what waits for them in one of
two ways: it is a change of a document that reaches a running server, or it lets
time pass.  Every other message leaves both alone and publishes nothing.

* `Message.edit?`: the change of the documents that a message asks for.
* `step_cases`: the three kinds of steps.
* `step_edit`, `step_wait`, `Idle`: what each of them does.
-/
import LuServer.Session

namespace LuServer

/-- The diagnostics among what the server sends. -/
def Broadcast.publication? : Broadcast → Option Publication
  | .diagnostics p => some p
  | _ => none

/-- The change of the documents that a message asks for; one without any new text asks
for none. -/
def Message.edit? : Message → Option StoreOp
  | .notification (.opened uri text version) => some (.openDocument uri text version)
  | .notification (.changed uri version texts) =>
    texts.getLast?.map fun text => .update uri text version
  | .notification (.closed uri) => some (.close uri)
  | _ => none

/-- The publications among what is sent for them are the publications. -/
theorem filterMap_publication?_map (ps : List Publication) :
    (ps.map Broadcast.diagnostics).filterMap Broadcast.publication? = ps := by
  rw [List.filterMap_map]
  exact List.filterMap_some

namespace Session

/-- The operation on the validations that goes with a change of the documents. -/
def validationOf (s : Session) : StoreOp → DebounceOp
  | .openDocument uri text version => s.scheduled uri text version
  | .update uri text version => s.scheduled uri text version
  | .close uri => .close uri

/-! ## Steps that change something -/

/-- A running server makes the change that a message asks for. -/
theorem step_edit {tree : FileTree} {s : Session} {m : Message} {op : StoreOp}
    (hs : s.phase = .running) (hm : m.edit? = some op) :
    s.step tree m
      = { state :=
            { s with
              store := s.store.apply op
              debounce := (s.debounce.step (s.validationOf op)).state }
          sent := (s.debounce.step (s.validationOf op)).published.map .diagnostics } := by
  have hsent : s.phase ≠ .ended := by
    rw [hs]
    decide
  match m, hm with
  | .notification (.opened uri text version), hm =>
    obtain rfl := Option.some.inj hm
    simp [step, notify, hs, validate, validationOf, Store.apply]
  | .notification (.changed uri version texts), hm =>
    obtain ⟨text, htext, rfl⟩ := Option.map_eq_some_iff.mp hm
    simp [step, notify, hs, htext, validate, validationOf, Store.apply]
  | .notification (.closed uri), hm =>
    obtain rfl := Option.some.inj hm
    simp [step, notify, hs, validate, validationOf, Store.apply]

/-- While time passes, what is due is published, unless the session has ended. -/
theorem step_wait (tree : FileTree) (s : Session) (duration : Nat) :
    s.step tree (.wait duration)
      = { state := { s with debounce := (s.debounce.step (.wait duration)).state }
          sent :=
            if s.phase = .ended then []
            else (s.debounce.step (.wait duration)).published.map .diagnostics } := rfl

/-! ## Steps that change nothing -/

/-- A step leaves the documents and what waits for them alone and publishes nothing.
Only a fresh session takes on settings. -/
structure Idle (s : Session) (r : SessionStep) : Prop where
  store : r.state.store = s.store
  debounce : r.state.debounce = s.debounce
  silent : r.sent.filterMap Broadcast.publication? = []
  settings : s.phase ≠ .fresh → r.state.settings = s.settings

theorem idle_refuse (s : Session) (reason : Refusal) : s.Idle (s.refuse reason) :=
  ⟨rfl, rfl, rfl, fun _ => rfl⟩

theorem idle_whenRunning {s : Session} {step : SessionStep} (h : s.Idle step) :
    s.Idle (s.whenRunning step) := by
  unfold whenRunning
  split
  · exact h
  · exact idle_refuse s _

theorem idle_setUp (tree : FileTree) (s : Session) (workspace : Option (List Url × Option Url)) :
    s.Idle (s.setUp tree workspace) := by
  unfold Session.setUp
  split
  · rename_i hfresh
    cases workspace with
    | none => exact idle_refuse s _
    | some w => exact ⟨rfl, rfl, rfl, fun hne => absurd hfresh hne⟩
  · exact idle_refuse s _

/-- A question sends at most the copies of an utterance. -/
theorem silent_answer (s : Session) (q : Question) :
    (s.answer q).2.filterMap Broadcast.publication? = [] := by
  unfold answer
  cases s.store.get? (subject q) with
  | none => rfl
  | some d =>
    cases q with
    | complete uri p => rfl
    | format uri p typed => rfl
    | unlabel uri number =>
      simp only [consult]
      cases unlabelledCopies? d.text number <;> rfl

theorem idle_ask (s : Session) (q : Option Question) : s.Idle (s.ask q) := by
  cases q with
  | none => exact idle_refuse s _
  | some q => exact ⟨rfl, rfl, silent_answer s q, fun _ => rfl⟩

theorem idle_request (tree : FileTree) (s : Session) (r : Request) :
    s.Idle (s.request tree r) := by
  have hself : s.Idle { state := s } := ⟨rfl, rfl, rfl, fun _ => rfl⟩
  unfold request
  split
  · exact hself
  · cases r with
    | setUp workspace => exact idle_setUp tree s workspace
    | shutdown understood => exact idle_whenRunning ⟨rfl, rfl, rfl, fun _ => rfl⟩
    | ask question => exact idle_whenRunning (idle_ask s question)
    | unsupported understood => exact idle_whenRunning (idle_refuse s _)
    | notice => exact idle_whenRunning (idle_refuse s _)
    | cancellation => exact idle_refuse s _
    | exit => exact ⟨rfl, rfl, rfl, fun _ => rfl⟩
    | optional => exact hself
    | unknown => exact idle_refuse s _

/-- A notification without a change for a running server does nothing. -/
theorem notify_idle {s : Session} {n : Notification}
    (h : s.phase = .running → (Message.notification n).edit? = none) :
    (s.notify n).1 = s ∧ (s.notify n).2.filterMap Broadcast.publication? = [] := by
  unfold notify
  split
  · rename_i hs
    have hn := h hs
    cases n with
    | initialized => exact ⟨rfl, rfl⟩
    | opened uri text version => cases hn
    | changed uri version texts =>
      have htexts := Option.map_eq_none_iff.mp hn
      simp only [htexts]
      exact ⟨trivial, rfl⟩
    | closed uri => cases hn
  · exact ⟨rfl, rfl⟩

theorem idle_notify {tree : FileTree} {s : Session} {n : Notification}
    (h : s.phase = .running → (Message.notification n).edit? = none) :
    s.Idle (s.step tree (.notification n)) := by
  obtain ⟨hstate, hsent⟩ := notify_idle h
  exact ⟨congrArg Session.store hstate, congrArg Session.debounce hstate, hsent,
    fun _ => congrArg Session.settings hstate⟩

/-- A change without any new text changes nothing at all. -/
theorem step_changed_nil (tree : FileTree) (s : Session) (uri : Uri) (version : Int) :
    s.step tree (.notification (.changed uri version [])) = { state := s } := by
  have hnotify : s.notify (.changed uri version []) = (s, []) := by
    unfold notify
    split <;> rfl
  simp only [step, hnotify]

/-- A message is a change for a running server, or lets time pass, or is idle. -/
theorem step_cases (tree : FileTree) (s : Session) (m : Message) :
    (s.phase = .running ∧ ∃ op, m.edit? = some op) ∨ (∃ duration, m = .wait duration) ∨
      ((s.phase = .running → m.edit? = none) ∧ s.Idle (s.step tree m)) := by
  cases m with
  | request r => exact Or.inr (Or.inr ⟨fun _ => rfl, idle_request tree s r⟩)
  | wait duration => exact Or.inr (Or.inl ⟨duration, rfl⟩)
  | notification n =>
    by_cases hs : s.phase = .running
    · cases hedit : (Message.notification n).edit? with
      | some op => exact Or.inl ⟨hs, op, rfl⟩
      | none => exact Or.inr (Or.inr ⟨fun _ => rfl, idle_notify fun _ => hedit⟩)
    · exact Or.inr (Or.inr ⟨fun h => absurd h hs, idle_notify fun h => absurd h hs⟩)

/-- The settings stay once the session has begun. -/
theorem settings_step {tree : FileTree} {s : Session} {m : Message} (hs : s.phase ≠ .fresh) :
    (s.step tree m).state.settings = s.settings := by
  rcases step_cases tree s m with ⟨hrunning, op, hop⟩ | ⟨duration, rfl⟩ | ⟨_, hidle⟩
  · rw [step_edit hrunning hop]
  · rw [step_wait]
  · exact hidle.settings hs

end Session

end LuServer
