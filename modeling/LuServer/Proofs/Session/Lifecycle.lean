/-
# The life of a session

A session begins with the first `initialize` that is understood and serves until it
is shut down or ended.  Only while it serves do notifications change documents.

* `Phase.next`: the phase after a message.
* `Serving`, `running_iff_serving`: what it takes for a session to serve.
* `settings_after`: the settings of a session are those of its workspace.
* `edits`, `mem_edits_iff`: the changes that a session makes.
* `publications`: the diagnostics that a session sends.
-/
import LuServer.Proofs.Document.Snapshot
import LuServer.Proofs.Session.Effect
import Mathlib.Data.List.Induction

namespace LuServer

/-! ## Phases -/

namespace Message

/-- Whether a message begins a fresh session. -/
def begins : Message → Bool
  | .request (.setUp (some _)) => true
  | _ => false

/-- Whether a message ends the service of a running session. -/
def ends : Message → Bool
  | .request (.shutdown _) => true
  | .request .exit => true
  | _ => false

end Message

/-- The phase after a message. -/
def Phase.next (p : Phase) (m : Message) : Phase :=
  if m = .request .exit then .ended
  else if p = .fresh ∧ m.begins = true then .running
  else if p = .running ∧ m.ends = true then .stopped
  else p

namespace Session

/-- The state after some messages. -/
def after (tree : FileTree) (s : Session) (ms : List Message) : Session :=
  ms.foldl (fun s m => (s.step tree m).state) s

theorem after_append (tree : FileTree) (s : Session) (ms more : List Message) :
    s.after tree (ms ++ more) = (s.after tree ms).after tree more :=
  List.foldl_append

theorem after_singleton (tree : FileTree) (s : Session) (m : Message) :
    s.after tree [m] = (s.step tree m).state := rfl

theorem phase_notify (tree : FileTree) (s : Session) (n : Notification) :
    (s.step tree (.notification n)).state.phase = s.phase := by
  by_cases hedit : s.phase = .running ∧ ∃ op, (Message.notification n).edit? = some op
  · obtain ⟨hs, op, hop⟩ := hedit
    rw [step_edit hs hop]
  · have hidle : s.phase = .running → (Message.notification n).edit? = none := by
      intro hs
      rw [Option.eq_none_iff_forall_ne_some]
      exact fun op hop => hedit ⟨hs, op, hop⟩
    exact congrArg Session.phase (notify_idle hidle).1

theorem phase_whenRunning (s : Session) (step : SessionStep) :
    (s.whenRunning step).state.phase
      = if s.phase = .running then step.state.phase else s.phase := by
  unfold whenRunning
  split <;> rfl

theorem phase_request (tree : FileTree) (s : Session) (r : Request) :
    (s.request tree r).state.phase = s.phase.next (.request r) := by
  unfold request
  by_cases hended : s.phase = .ended
  · rw [if_pos hended]
    cases r <;> simp [Phase.next, hended]
  · rw [if_neg hended]
    cases r with
    | setUp workspace =>
      cases workspace <;> by_cases hfresh : s.phase = .fresh <;>
        simp [Session.setUp, refuse, Phase.next, Message.begins, Message.ends, hfresh]
    | shutdown understood =>
      by_cases hrunning : s.phase = .running <;>
        simp [phase_whenRunning, Phase.next, Message.begins, Message.ends, hrunning]
    | ask question =>
      cases question <;>
        simp [phase_whenRunning, ask, refuse, Phase.next, Message.begins, Message.ends]
    | exit => simp [Phase.next]
    | _ => simp [phase_whenRunning, refuse, Phase.next, Message.begins, Message.ends]

/-- The phase depends on the messages alone. -/
theorem phase_step (tree : FileTree) (s : Session) (m : Message) :
    (s.step tree m).state.phase = s.phase.next m := by
  cases m with
  | request r => exact phase_request tree s r
  | notification n =>
    rw [phase_notify]
    simp [Phase.next, Message.begins, Message.ends]
  | wait duration =>
    rw [step]
    simp [wait, validate, Phase.next, Message.begins, Message.ends]

theorem phase_after (tree : FileTree) (s : Session) (ms : List Message) :
    (s.after tree ms).phase = ms.foldl Phase.next s.phase := by
  induction ms generalizing s with
  | nil => rfl
  | cons m ms ih =>
    rw [after, List.foldl_cons, List.foldl_cons, ← phase_step tree]
    exact ih (s.step tree m).state

end Session

/-! ## Serving -/

namespace Phase

/-- A session stays fresh until a message begins or ends it. -/
theorem next_eq_fresh_iff (p : Phase) (m : Message) :
    p.next m = .fresh ↔ p = .fresh ∧ m.begins = false ∧ m ≠ .request .exit := by
  unfold Phase.next
  split
  · simp [*]
  · split
    · simp [*]
    · split
      · rename_i hends
        simp [hends.1]
      · rename_i hexit hbegins _
        constructor
        · rintro rfl
          exact ⟨rfl, by simpa using hbegins, hexit⟩
        · exact fun h => h.1

/-- A session runs from the message that begins it to the one that ends it. -/
theorem next_eq_running_iff (p : Phase) (m : Message) :
    p.next m = .running ↔ (p = .fresh ∧ m.begins = true) ∨ (p = .running ∧ m.ends = false) := by
  unfold Phase.next
  split
  · rename_i hexit
    simp [hexit, Message.begins, Message.ends]
  · split
    · simp [*]
    · split
      · rename_i hends
        simp [hends.1, hends.2]
      · rename_i hexit hbegins hends
        constructor
        · rintro rfl
          exact Or.inr ⟨rfl, by simpa using hends⟩
        · rintro (hfresh | hrunning)
          · exact absurd hfresh hbegins
          · exact hrunning.1

/-- A session ends by one message only. -/
theorem next_eq_ended_iff (p : Phase) (m : Message) :
    p.next m = .ended ↔ p = .ended ∨ m = .request .exit := by
  unfold Phase.next
  split
  · simp [*]
  · split
    · simp [*]
    · split
      · rename_i hexit _ hends
        simp [hends.1, hexit]
      · rename_i hexit _ _
        simp [hexit]

/-- Some messages do not end a session if none of them asks for it. -/
theorem foldl_next_ne_ended {ms : List Message} (h : Message.request .exit ∉ ms) :
    ms.foldl Phase.next .fresh ≠ .ended := by
  induction ms using List.reverseRecOn with
  | nil => decide
  | append_singleton ms m ih =>
    rw [List.mem_append, List.mem_singleton, not_or] at h
    rw [List.foldl_append, List.foldl_cons, List.foldl_nil, ne_eq, next_eq_ended_iff]
    rintro (hms | hm)
    · exact ih h.1 hms
    · exact h.2 hm.symm

/-- Some messages leave a session fresh if none of them begins or ends it. -/
theorem fresh_iff (ms : List Message) :
    ms.foldl Phase.next .fresh = .fresh ↔ ∀ b ∈ ms, b.begins = false ∧ b ≠ .request .exit := by
  induction ms using List.reverseRecOn with
  | nil => simp
  | append_singleton ms m ih =>
    rw [List.foldl_append, List.foldl_cons, List.foldl_nil, next_eq_fresh_iff, ih]
    simp only [List.mem_append, List.mem_singleton]
    constructor
    · rintro ⟨hms, hm⟩ b (hb | rfl)
      · exact hms b hb
      · exact hm
    · intro h
      exact ⟨fun b hb => h b (Or.inl hb), h m (Or.inr rfl)⟩

end Phase

/-- A session serves after some messages: one of them began it, and none after that
one shut it down or ended it. -/
def Serving (ms : List Message) : Prop :=
  ∃ before m since, ms = before ++ m :: since ∧ m.begins = true ∧
    (∀ b ∈ before, b.begins = false ∧ b ≠ .request .exit) ∧ ∀ b ∈ since, b.ends = false

/-- One more message begins the service, or does not end it. -/
theorem serving_append (ms : List Message) (m : Message) :
    Serving (ms ++ [m]) ↔
      ((∀ b ∈ ms, b.begins = false ∧ b ≠ .request .exit) ∧ m.begins = true) ∨
        (Serving ms ∧ m.ends = false) := by
  constructor
  · rintro ⟨before, first, since, heq, hbegins, hbefore, hsince⟩
    -- the last message is the one that began the session, or comes after it
    rcases List.eq_nil_or_concat since with rfl | ⟨since, last, rfl⟩
    · obtain ⟨rfl, rfl⟩ := List.append_singleton_inj.mp heq
      exact Or.inl ⟨hbefore, hbegins⟩
    · rw [List.concat_eq_append, ← List.cons_append, ← List.append_assoc] at heq
      obtain ⟨rfl, rfl⟩ := List.append_singleton_inj.mp heq
      rw [List.concat_eq_append] at hsince
      exact Or.inr ⟨⟨before, first, since, rfl, hbegins, hbefore,
        fun b hb => hsince b (List.mem_append_left _ hb)⟩, hsince m (by simp)⟩
  · rintro (⟨hms, hm⟩ | ⟨⟨before, first, since, rfl, hbegins, hbefore, hsince⟩, hm⟩)
    · exact ⟨ms, m, [], rfl, hm, hms, by simp⟩
    · refine ⟨before, first, since ++ [m], by simp, hbegins, hbefore, ?_⟩
      intro b hb
      rcases List.mem_append.mp hb with hb | hb
      · exact hsince b hb
      · rw [List.mem_singleton.mp hb]
        exact hm

namespace Session

/-- A session is running exactly while it serves. -/
theorem running_iff_serving (ms : List Message) :
    ms.foldl Phase.next .fresh = .running ↔ Serving ms := by
  induction ms using List.reverseRecOn with
  | nil =>
    constructor
    · intro h
      cases h
    · rintro ⟨before, m, since, heq, _⟩
      simp at heq
  | append_singleton ms m ih =>
    rw [List.foldl_append, List.foldl_cons, List.foldl_nil, Phase.next_eq_running_iff, ih,
      Phase.fresh_iff, serving_append]

/-- A session that serves is running. -/
theorem phase_of_serving (tree : FileTree) {ms : List Message} (h : Serving ms) :
    (after tree {} ms).phase = .running := by
  rw [phase_after]
  exact (running_iff_serving ms).mpr h

/-! ## Settings -/

/-- A session that has begun keeps its settings. -/
theorem settings_after_of_begun (tree : FileTree) {s : Session} (hs : s.phase ≠ .fresh)
    (ms : List Message) : (s.after tree ms).settings = s.settings := by
  induction ms generalizing s with
  | nil => rfl
  | cons m ms ih =>
    have hnext : (s.step tree m).state.phase ≠ .fresh := by
      rw [phase_step, ne_eq, Phase.next_eq_fresh_iff]
      exact fun h => hs h.1
    rw [← settings_step hs]
    exact ih hnext

/-- The settings of a session are those of the workspace that it was begun with. -/
theorem settings_after (tree : FileTree) {before : List Message}
    (hbefore : ∀ b ∈ before, b.begins = false ∧ b ≠ .request .exit) (folders : List Url)
    (root : Option Url) (since : List Message) :
    (after tree {} (before ++ .request (.setUp (some (folders, root))) :: since)).settings
      = settingsFor tree folders root := by
  have hfresh : (after tree {} before).phase = .fresh := by
    rw [phase_after]
    exact (Phase.fresh_iff before).mpr hbefore
  have hbegin : ((after tree {} before).step tree (.request (.setUp (some (folders, root))))).state
      = { after tree {} before with
          phase := .running, settings := settingsFor tree folders root } := by
    simp [step, request, Session.setUp, hfresh]
  rw [after_append, after, List.foldl_cons, hbegin]
  exact settings_after_of_begun tree (by simp) since

/-! ## The changes of a session -/

/-- The changes that some messages make to the documents, from phase `p` on. -/
def editsFrom (p : Phase) : List Message → List StoreOp
  | [] => []
  | m :: ms => (if p = .running then m.edit?.toList else []) ++ editsFrom (p.next m) ms

/-- The changes that a session makes to the documents. -/
def edits (ms : List Message) : List StoreOp :=
  editsFrom .fresh ms

theorem editsFrom_append (p : Phase) (ms : List Message) (m : Message) :
    editsFrom p (ms ++ [m])
      = editsFrom p ms ++ if ms.foldl Phase.next p = .running then m.edit?.toList else [] := by
  induction ms generalizing p with
  | nil =>
    rw [List.nil_append, editsFrom, editsFrom, editsFrom, List.append_nil, List.nil_append]
    rfl
  | cons first ms ih =>
    rw [List.cons_append, editsFrom, ih, editsFrom, List.foldl_cons, List.append_assoc]

/-- A change is made exactly if a message asks for it while the session serves. -/
theorem mem_edits_iff (ms : List Message) (op : StoreOp) :
    op ∈ edits ms ↔ ∃ before m since, ms = before ++ m :: since ∧ Serving before ∧
      m.edit? = some op := by
  induction ms using List.reverseRecOn with
  | nil => simp [edits, editsFrom]
  | append_singleton ms m ih =>
    rw [edits, editsFrom_append, List.mem_append, ← edits, ih]
    -- the change is made by an earlier message, or by the last one
    constructor
    · rintro (⟨before, first, since, rfl, hserving, hedit⟩ | hlast)
      · exact ⟨before, first, since ++ [m], by simp, hserving, hedit⟩
      · split at hlast
        · rename_i hrunning
          exact ⟨ms, m, [], rfl, (running_iff_serving ms).mp hrunning,
            Option.mem_toList.mp hlast⟩
        · cases hlast
    · rintro ⟨before, first, since, heq, hserving, hedit⟩
      rcases List.eq_nil_or_concat since with rfl | ⟨since, last, rfl⟩
      · obtain ⟨rfl, rfl⟩ := List.append_singleton_inj.mp heq
        rw [if_pos ((running_iff_serving ms).mpr hserving)]
        exact Or.inr (Option.mem_toList.mpr hedit)
      · rw [List.concat_eq_append, ← List.cons_append, ← List.append_assoc] at heq
        obtain ⟨rfl, rfl⟩ := List.append_singleton_inj.mp heq
        exact Or.inl ⟨before, first, since, rfl, hserving, hedit⟩

/-- The store after a message is what the change of the message makes of it, if the
server is running. -/
theorem store_step (tree : FileTree) (s : Session) (m : Message) :
    (s.step tree m).state.store
      = s.store.run (if s.phase = .running then m.edit?.toList else []) := by
  rcases step_cases tree s m with ⟨hrunning, op, hop⟩ | ⟨duration, rfl⟩ | ⟨hnone, hidle⟩
  · rw [step_edit hrunning hop, if_pos hrunning, hop]
    rfl
  · have hnone : (Message.wait duration).edit? = none := rfl
    rw [step_wait, hnone, Option.toList_none, ite_self]
    rfl
  · rw [hidle.store]
    split
    · rename_i hrunning
      rw [hnone hrunning]
      rfl
    · rfl

/-- The store of a session is what its changes make of an empty one. -/
theorem store_after (tree : FileTree) (ms : List Message) :
    (after tree {} ms).store = Store.run .empty (edits ms) := by
  induction ms using List.reverseRecOn with
  | nil => rfl
  | append_singleton ms m ih =>
    have hphase : ms.foldl Phase.next .fresh = (after tree {} ms).phase :=
      (phase_after tree {} ms).symm
    rw [after_append, after_singleton, store_step, ih, edits, edits, editsFrom_append, hphase,
      Store.run, Store.run, Store.run, List.foldl_append]

/-! ## Publications -/

/-- The diagnostics that a session sends, in order. -/
def publications (tree : FileTree) (s : Session) (ms : List Message) : List Publication :=
  (s.run tree ms).flatMap fun r => r.sent.filterMap Broadcast.publication?

theorem publications_cons (tree : FileTree) (s : Session) (m : Message) (ms : List Message) :
    s.publications tree (m :: ms)
      = (s.step tree m).sent.filterMap Broadcast.publication?
        ++ (s.step tree m).state.publications tree ms := by
  rw [publications, run, List.flatMap_cons, publications]

theorem publications_append (tree : FileTree) (s : Session) (ms : List Message) (m : Message) :
    s.publications tree (ms ++ [m])
      = s.publications tree ms
        ++ ((s.after tree ms).step tree m).sent.filterMap Broadcast.publication? := by
  induction ms generalizing s with
  | nil =>
    rw [List.nil_append, publications_cons]
    exact List.append_nil _
  | cons first ms ih =>
    rw [List.cons_append, publications_cons, ih, publications_cons, List.append_assoc]
    rfl

end Session

end LuServer
