/-
# The generation guard

An aborted task may go on as if nothing had happened.  It is kept from publishing by the
table of waiting validations alone: the entry of its document has another generation by then,
or there is none, and no task comes by the generation of another.  So it does not matter in
which order callers, tasks and messages take their steps, as long as the count of calls does
not wrap around.

* `Tasks.exists_call`: every task is that of a call.
* `Tasks.Spent`: a call that has neither an entry nor a result.
* `Tasks.spent_step`, `Tasks.spent_run`: it never gets one.
* `Tasks.spent_of_concerns`: a call is spent once its sleeping task has lost its entry.
* `Tasks.generation_guard`: what follows for every run.
-/
import LuServer.Proofs.Debounce.Tracked
import Mathlib.Data.List.Induction

namespace LuServer

/-- Whether a step asks for a validation. -/
def TaskStep.isCall : TaskStep → Bool
  | .act (.schedule ..) _ => true
  | _ => false

namespace Tasks

variable {s : Tasks}

/-! ## Calls -/

theorem calls_step (s : Tasks) (a : TaskStep) :
    (s.step a).calls = s.calls + if a.isCall = true then 1 else 0 := by
  cases a with
  | act op heeded =>
    refine calls_act.trans ?_
    cases op <;> rfl
  | wake number =>
    simp only [step]
    split
    · exact calls_wake
    · rfl
  | deliver place => rfl

theorem calls_run (s : Tasks) (steps : List TaskStep) :
    (s.run steps).calls = s.calls + steps.countP TaskStep.isCall := by
  induction steps generalizing s with
  | nil => rfl
  | cons a as ih =>
    rw [run_cons, ih, calls_step, List.countP_cons]
    omega

theorem calls_run_empty (steps : List TaskStep) :
    (run {} steps).calls = steps.countP TaskStep.isCall := by
  rw [calls_run]
  exact Nat.zero_add _

/-- A task that was not there before a step is the one that the step starts. -/
theorem mem_tasks_step (h : s.Tracked) (a : TaskStep) {t : Sleeper} :
    t ∈ (s.step a).tasks ↔
      t ∈ s.tasks ∨ ∃ op heeded, a = .act op heeded ∧ t ∈ s.debounce.newcomer op := by
  cases a with
  | act op heeded =>
    rw [step, (tasks_act_perm h).mem_iff, List.mem_append]
    simp
  | wake number =>
    simp only [step]
    split
    · rename_i r hfind
      rw [(tasks_wake_perm h (List.mem_of_find?_eq_some hfind)).mem_iff]
      simp
    · simp
  | deliver place =>
    show t ∈ s.tasks ↔ _
    simp

/-- Tasks stay. -/
theorem mem_tasks_run (h : s.Tracked) (steps : List TaskStep) {t : Sleeper} (ht : t ∈ s.tasks) :
    t ∈ (s.run steps).tasks := by
  induction steps generalizing s with
  | nil => exact ht
  | cons a as ih => exact ih (tracked_step h a) ((mem_tasks_step h a).mpr (Or.inl ht))

/-- Every task is that of a call, and its number says how many calls came before. -/
theorem exists_call {steps : List TaskStep} {t : Sleeper} (ht : t ∈ (run {} steps).tasks) :
    ∃ before op heeded after, steps = before ++ .act op heeded :: after ∧
      t ∈ (run {} before).debounce.newcomer op := by
  induction steps using List.reverseRecOn with
  | nil => cases ht
  | append_singleton steps a ih =>
    rw [run_append] at ht
    rcases (mem_tasks_step (tracked_run tracked_empty steps) a).mp ht with hold | hnew
    · obtain ⟨before, op, heeded, after, rfl, hcall⟩ := ih hold
      exact ⟨before, op, heeded, after ++ [a], by simp, hcall⟩
    · obtain ⟨op, heeded, rfl, hcall⟩ := hnew
      exact ⟨steps, op, heeded, [], rfl, hcall⟩

/-! ## Spent calls -/

/-- A call that has neither an entry nor a result. -/
structure Spent (s : Tasks) (number : Nat) : Prop where
  made : number < s.calls
  no_entry : ∀ uri ticket, s.debounce.pending.get? uri = some ticket → ticket.task ≠ number
  no_result : ∀ m ∈ s.results, m.call ≠ number

variable {number : Nat}

theorem spent_act (hspent : s.Spent number) {op : DebounceOp} {heeded : Bool} :
    (s.act op heeded).Spent number where
  made := by
    have hmade := hspent.made
    rw [calls_act]
    omega
  no_entry := by
    intro uri ticket hticket
    rw [pending_act, Debounce.get?_act] at hticket
    split at hticket
    · obtain ⟨t, hnew, rfl⟩ := Debounce.newTicket?_eq_some hticket
      -- the new entry belongs to a later call
      show t.number ≠ number
      rw [(Debounce.mem_newcomer hnew).1]
      exact Nat.ne_of_gt hspent.made
    · exact hspent.no_entry uri ticket hticket
  no_result := by
    rw [results_act]
    exact hspent.no_result

/-- The one task that could publish for a spent call finds no entry of its generation. -/
theorem spent_wake (h : s.Tracked) (hfew : s.calls ≤ 2 ^ 64) (hspent : s.Spent number)
    {t : Sleeper} (ht : t ∈ s.debounce.sleeping) : (s.wake t).Spent number where
  made := by
    rw [calls_wake]
    exact hspent.made
  no_entry := by
    intro uri ticket hticket
    rcases s.debounce.wake_cases t with ⟨taken, -, -, hwake⟩ | ⟨-, hwake⟩
    · simp only [wake, hwake, Table.get?_erase] at hticket
      split at hticket
      · cases hticket
      · exact hspent.no_entry uri ticket hticket
    · simp only [wake, hwake] at hticket
      exact hspent.no_entry uri ticket hticket
  no_result := by
    intro m hm
    rw [results_wake, List.mem_append] at hm
    rcases hm with hold | hnew
    · exact hspent.no_result m hold
    rcases s.debounce.wake_cases t with ⟨ticket, hticket, hown, hwake⟩ | ⟨-, hwake⟩
    · rw [hwake, List.map_singleton, List.mem_singleton] at hnew
      obtain ⟨r, hr, -, rfl⟩ := h.owner t.uri ticket hticket
      -- equal generations are equal tasks, so the entry is the task's own
      have heq : r = t :=
        h.eq_of_generation hfew (List.mem_append_left _ hr) (List.mem_append_left _ ht) hown
      rw [hnew, ← heq]
      exact hspent.no_entry t.uri _ hticket
    · rw [hwake] at hnew
      cases hnew

/-- A spent call stays so. -/
theorem spent_step (h : s.Tracked) (hfew : s.calls ≤ 2 ^ 64) (hspent : s.Spent number)
    (a : TaskStep) : (s.step a).Spent number := by
  refine step_induction (motive := fun r => r.Spent number) hspent
    (fun _ _ => spent_act hspent) (fun _ ht => spent_wake h hfew hspent ht) ?_ a
  intro place
  refine ⟨hspent.made, hspent.no_entry, ?_⟩
  intro m hm
  exact hspent.no_result m (((messages_deliver_perm s place).filter _).mem_iff.mp hm)

/-- A spent call stays so, whatever follows. -/
theorem spent_run (h : s.Tracked) (steps : List TaskStep)
    (hfew : (s.run steps).calls ≤ 2 ^ 64) (hspent : s.Spent number) :
    (s.run steps).Spent number := by
  induction steps generalizing s with
  | nil => exact hspent
  | cons a as ih =>
    have hnow : s.calls ≤ 2 ^ 64 := by
      rw [calls_run] at hfew
      omega
    exact ih (tracked_step h a) hfew (spent_step h hnow hspent a)

/-- A call is spent once its sleeping task has lost its entry. -/
theorem spent_of_concerns (h : s.Tracked) {op : DebounceOp} {heeded : Bool} {t : Sleeper}
    (ht : t ∈ s.debounce.sleeping) (hop : op.concerns t.uri = true) :
    (s.act op heeded).Spent t.number where
  made := by
    have hlt := h.number_lt (List.mem_append_left _ ht)
    rw [calls_act]
    omega
  no_entry := by
    intro uri ticket hticket
    rw [pending_act, Debounce.get?_act] at hticket
    split at hticket
    · obtain ⟨r, hnew, rfl⟩ := Debounce.newTicket?_eq_some hticket
      show r.number ≠ t.number
      rw [(Debounce.mem_newcomer hnew).1]
      exact Nat.ne_of_gt (h.number_lt (List.mem_append_left _ ht))
    · rename_i hother
      intro htask
      rw [h.uri_of_task hticket ht htask] at hop
      exact hother hop
  no_result := by
    intro m hm
    rw [results_act] at hm
    exact h.ne_of_results ht hm

/-! ## The guard -/

/-- A task that is due and has its entry sends its result off. -/
theorem mem_underway_wake (h : s.Tracked) {t : Sleeper} (ht : t ∈ s.debounce.sleeping)
    (hdue : t.validation.due ≤ s.debounce.now) {ticket : Ticket}
    (hticket : s.debounce.pending.get? t.uri = some ticket)
    (hown : ticket.generation = t.generation) :
    ⟨t.number, Debounce.outcome t.validation⟩ ∈ (s.step (.wake t.number)).underway := by
  rcases s.debounce.wake_cases t with ⟨taken, -, -, hwake⟩ | ⟨hother, -⟩
  · rw [step_wake h.sleeping_nodup ht hdue]
    simp only [wake, hwake, List.map_singleton]
    exact List.mem_append_right _ (List.mem_singleton_self _)
  · exact absurd hown (hother ticket hticket)

/-- What holds after a run, whoever heeds an abort. -/
structure Guarded (steps : List TaskStep) (s : Tasks) : Prop where
  /-- Every task is that of a call, and its number says how many calls came before. -/
  calls : ∀ t ∈ s.tasks, ∃ before op heeded after, steps = before ++ .act op heeded :: after ∧
    before.countP TaskStep.isCall = t.number ∧ t ∈ (run {} before).debounce.newcomer op
  generations : (s.tasks.map Sleeper.generation).Nodup
  /-- An entry belongs to one task, which is for its document and has yet to look for it. -/
  owner : ∀ uri ticket, s.debounce.pending.get? uri = some ticket →
    ∃ t ∈ s.debounce.sleeping, t.uri = uri ∧ t ∉ s.past ∧
      ∀ r ∈ s.tasks, r.generation = ticket.generation ↔ r = t
  /-- A task that is due and has its entry publishes. -/
  claimed : ∀ t ∈ s.debounce.sleeping, t.validation.due ≤ s.debounce.now →
    ∀ ticket, s.debounce.pending.get? t.uri = some ticket →
      ticket.generation = t.generation →
      ⟨t.number, Debounce.outcome t.validation⟩ ∈ (s.step (.wake t.number)).underway
  /-- What is published is what a task finds that has looked for its entry. -/
  sender : ∀ m ∈ s.results, ∃ t ∈ s.past, t.number = m.call ∧
    m.publication = Debounce.outcome t.validation
  /-- No call publishes twice. -/
  once : (s.results.map Delivery.call).Nodup
  /-- A task does not publish if its entry is replaced or removed while it sleeps. -/
  superseded : ∀ before op heeded after, steps = before ++ .act op heeded :: after →
    ∀ t ∈ (run {} before).debounce.sleeping, op.concerns t.uri = true →
      ∀ m ∈ s.results, m.call ≠ t.number

/-- Fewer than `2 ^ 64` calls are safe from each other in every order of steps. -/
theorem generation_guard (steps : List TaskStep)
    (hfew : steps.countP TaskStep.isCall < 2 ^ 64) : Guarded steps (run {} steps) := by
  have h : (run {} steps).Tracked := tracked_run tracked_empty steps
  have hcalls : (run {} steps).calls ≤ 2 ^ 64 := by
    rw [calls_run_empty]
    exact Nat.le_of_lt hfew
  refine ⟨?_, ?_, ?_, ?_, h.sender, h.once, ?_⟩
  · intro t ht
    obtain ⟨before, op, heeded, after, hsteps, hnew⟩ := exists_call ht
    refine ⟨before, op, heeded, after, hsteps, ?_, hnew⟩
    rw [← calls_run_empty, (Debounce.mem_newcomer hnew).1]
  · refine (List.Nodup.of_map _ h.numbers_nodup).map_on ?_
    intro t ht r hr heq
    exact h.eq_of_generation hcalls ht hr heq
  · intro uri ticket hticket
    obtain ⟨t, ht, huri, rfl⟩ := h.owner uri ticket hticket
    refine ⟨t, ht, huri, fun hpast => h.ne_of_past ht hpast rfl, ?_⟩
    intro r hr
    constructor
    · exact h.eq_of_generation hcalls hr (List.mem_append_left _ ht)
    · rintro rfl
      rfl
  · intro t ht hdue ticket hticket hown
    exact mem_underway_wake h ht hdue hticket hown
  · rintro before op heeded after rfl t ht hop m hm
    have hbefore := tracked_run tracked_empty before
    rw [run_append, run_cons] at hcalls hm
    exact (spent_run (tracked_step hbefore (.act op heeded)) after hcalls
      (spent_of_concerns hbefore ht hop)).no_result m hm

/-- A task that does not notice its abort wakes up first, and only the second call
publishes. -/
theorem generation_guard_unnoticed :
    let steps : List TaskStep :=
      [.act (.schedule "a" ['@'] 1 0 []) false, .act (.schedule "a" [] 2 0 []) false,
        .wake 0, .wake 1, .deliver 0]
    steps.countP TaskStep.isCall < 2 ^ 64 ∧ Guarded steps (run {} steps) ∧
      (run {} steps).past.map Sleeper.number = [0, 1] ∧
      (run {} steps).results.map Delivery.call = [1] :=
  ⟨by decide, generation_guard _ (by decide), by decide +kernel, by decide +kernel⟩

end Tasks

end LuServer
