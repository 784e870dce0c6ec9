/-
# One operation after the other

When every operation is handled to its end before the next one begins, tasks and messages
take their steps in one particular order.  `Debounce.run` is the run in that order, so that
what is shown of all orders holds of it; and no message is under way when an operation
begins, so that it publishes in order.

* `Tasks.handling`, `Tasks.handlingAll`: the steps of operations that are handled to their
  end.
* `Tasks.quiet_handling`: after one of them everything is as `Debounce.step` says.
* `Tasks.quiet_handlingAll`: after all of them everything is as `Debounce.run` says.
* `Tasks.inOrder_handlingAll`: what is published then is in order.
-/
import LuServer.Proofs.Debounce.Order
import LuServer.Proofs.Debounce.Trace

namespace LuServer

namespace Debounce

/-- Tasks that wake up do not look at the sleeping ones. -/
theorem wake_sleeping (d : Debounce) (l : List Sleeper) (t : Sleeper) :
    { d with sleeping := l }.wake t = ({ (d.wake t).1 with sleeping := l }, (d.wake t).2) := by
  simp only [wake]
  cases d.pending.get? t.uri with
  | none => rfl
  | some ticket =>
    by_cases hown : ticket.generation = t.generation
    · simp [hown]
    · simp [hown]

theorem wakeAll_sleeping (d : Debounce) (l ts : List Sleeper) :
    { d with sleeping := l }.wakeAll ts
      = ({ (d.wakeAll ts).1 with sleeping := l }, (d.wakeAll ts).2) := by
  induction ts generalizing d with
  | nil => rfl
  | cons t ts ih => simp only [wakeAll, wake_sleeping, ih]

end Debounce

namespace Tasks

/-! ## Operations handled to their end -/

/-- The steps of an operation that is handled to its end: its own message arrives, and then
every task that is due wakes up and its message arrives. -/
def handling (d : Debounce) (op : DebounceOp) : List TaskStep :=
  (.act op true :: (d.announce op).map fun _ => .deliver 0)
    ++ (d.act op).due.flatMap fun t => [.wake t.number, .deliver 0]

/-- The steps of operations that are handled one after the other. -/
def handlingAll (d : Debounce) : List DebounceOp → List TaskStep
  | [] => []
  | op :: ops => handling d op ++ handlingAll (d.step op).state ops

/-- All messages have arrived, and what waits is known. -/
structure Quiet (s : Tasks) (d : Debounce) (published : List Publication) : Prop where
  debounce : s.debounce = d
  underway : s.underway = []
  delivered : s.delivered.map Delivery.publication = published

variable {s : Tasks} {d : Debounce} {published : List Publication}

/-- A task wakes up and its message arrives. -/
theorem quiet_wake (h : s.Quiet d published) {t : Sleeper}
    (hnumbers : (d.sleeping.map Sleeper.number).Nodup) (ht : t ∈ d.sleeping)
    (hdue : t.validation.due ≤ d.now) :
    (s.run [.wake t.number, .deliver 0]).Quiet
      { (d.wake t).1 with sleeping := d.sleeping.filter fun r => r ≠ t }
      (published ++ (d.wake t).2) := by
  obtain ⟨rfl, hunderway, rfl⟩ := h
  rw [run_cons, step_wake hnumbers ht hdue]
  rcases s.debounce.wake_cases t with ⟨ticket, -, -, hwake⟩ | ⟨-, hwake⟩
  · constructor <;> simp [step, deliver, wake, hwake, hunderway]
  · constructor <;> simp [step, deliver, wake, hwake, hunderway]

/-- Tasks wake up one after the other, and the message of each arrives before the next wakes
up. -/
theorem quiet_wakes {ts : List Sleeper} (h : s.Quiet d published)
    (hnumbers : (d.sleeping.map Sleeper.number).Nodup) (hnodup : ts.Nodup)
    (hts : ∀ t ∈ ts, t ∈ d.sleeping ∧ t.validation.due ≤ d.now) :
    (s.run (ts.flatMap fun t => [.wake t.number, .deliver 0])).Quiet
      { (d.wakeAll ts).1 with sleeping := d.sleeping.filter fun r => r ∉ ts }
      (published ++ (d.wakeAll ts).2) := by
  induction ts generalizing s d published with
  | nil => simpa [Debounce.wakeAll] using h
  | cons t ts ih =>
    obtain ⟨ht, hdue⟩ := hts t List.mem_cons_self
    rw [List.nodup_cons] at hnodup
    have hfirst := quiet_wake h hnumbers ht hdue
    have hrest := ih hfirst (hnumbers.sublist (List.filter_sublist.map _)) hnodup.2 ?_
    · rw [List.flatMap_cons, run_append]
      simpa only [Debounce.wakeAll, Debounce.wakeAll_sleeping, List.filter_filter,
        List.append_assoc, List.mem_cons, not_or, Bool.decide_and, Bool.and_comm] using hrest
    · intro r hr
      have hne : r ≠ t := by
        rintro rfl
        exact hnodup.1 hr
      have hold := hts r (List.mem_cons_of_mem _ hr)
      refine ⟨List.mem_filter.mpr ⟨hold.1, decide_eq_true hne⟩, ?_⟩
      show r.validation.due ≤ (d.wake t).1.now
      rw [Debounce.now_wake]
      exact hold.2

/-- An operation is made, and its own message arrives. -/
theorem quiet_act (h : s.Quiet d published) (op : DebounceOp) :
    (s.run (.act op true :: (d.announce op).map fun _ => .deliver 0)).Quiet
      (d.act op) (published ++ d.announce op) := by
  obtain ⟨rfl, hunderway, rfl⟩ := h
  cases op <;> constructor <;> simp [step, act, deliver, Debounce.announce, hunderway]

/-- After an operation that is handled to its end everything is as `Debounce.step` says. -/
theorem quiet_handling (h : s.Quiet d published) (hlinked : d.Linked) (op : DebounceOp) :
    (s.run (handling d op)).Quiet (d.step op).state (published ++ (d.step op).published) := by
  have hact := Debounce.linked_act hlinked op
  have hdue : (d.act op).due.Nodup := by
    rw [(d.act op).due_perm.nodup_iff]
    exact (List.Nodup.of_map _ hact.numbers).filter _
  have hwakes := quiet_wakes (quiet_act h op) hact.numbers hdue
    fun t ht => Debounce.mem_due.mp ht
  have hsleeping : ((d.act op).sleeping.filter fun r => r ∉ (d.act op).due)
      = (d.act op).sleeping.filter fun r => (d.act op).now < r.validation.due := by
    refine List.filter_congr ?_
    intro r hr
    simp [Debounce.mem_due, hr]
  rw [handling, run_append]
  simpa only [Debounce.step, Debounce.settle, Debounce.wakeAll_sleeping, hsleeping,
    List.append_assoc] using hwakes

/-- Operations that are handled one after the other take the steps of `Debounce.run`. -/
theorem quiet_handlingAll (h : s.Quiet d published) (hlinked : d.Linked)
    (ops : List DebounceOp) :
    (s.run (handlingAll d ops)).Quiet (d.after ops)
      (published ++ (d.run ops).flatMap DebounceStep.published) := by
  induction ops generalizing s d published with
  | nil => simpa [handlingAll, Debounce.run, Debounce.after] using h
  | cons op ops ih =>
    have hrest := ih (quiet_handling h hlinked op) (Debounce.linked_step hlinked op)
    rw [handlingAll, run_append]
    show Quiet _ ((d.step op).state.after ops) _
    simpa only [Debounce.run, List.flatMap_cons, List.append_assoc] using hrest

/-! ## Their order -/

/-- Steps that are no operations are prompt. -/
theorem prompt_of_forall {as : List TaskStep} (has : ∀ op heeded, .act op heeded ∉ as) :
    s.Prompt as := by
  induction as generalizing s with
  | nil => trivial
  | cons a as ih =>
    refine ⟨?_, ih fun op heeded hmem => has op heeded (List.mem_cons_of_mem _ hmem)⟩
    rintro op heeded rfl
    exact absurd List.mem_cons_self (has op heeded)

/-- An operation that is handled to its end leaves nothing under way. -/
theorem prompt_handlingAll (h : s.Quiet d published) (hlinked : d.Linked)
    (ops : List DebounceOp) : s.Prompt (handlingAll d ops) := by
  induction ops generalizing s d published with
  | nil => trivial
  | cons op ops ih =>
    rw [handlingAll, prompt_append]
    refine ⟨?_, ih (quiet_handling h hlinked op) (Debounce.linked_step hlinked op)⟩
    refine ⟨?_, prompt_of_forall ?_⟩
    · intro _ _ _ m hm
      rw [h.underway] at hm
      cases hm
    · intro other heeded
      simp

/-- Operations that are handled one after the other publish in order. -/
theorem inOrder_handlingAll (ops : List DebounceOp)
    (hfew : (Debounce.after {} ops).started < 2 ^ 64) :
    (run {} (handlingAll {} ops)).delivered.map Delivery.publication = Debounce.published ops ∧
      InOrder (run {} (handlingAll {} ops)).delivered := by
  have hquiet : Quiet {} {} [] := ⟨rfl, rfl, rfl⟩
  have hend := quiet_handlingAll hquiet Debounce.linked_empty ops
  refine ⟨hend.delivered, ?_⟩
  refine inOrder_of_prompt ?_ (prompt_handlingAll hquiet Debounce.linked_empty ops)
  rw [← calls_run_empty, calls, hend.debounce]
  exact hfew

end Tasks

end LuServer
