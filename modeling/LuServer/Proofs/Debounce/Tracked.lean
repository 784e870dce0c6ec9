/-
# Tasks and their entries

Whatever the order of the steps, tasks, entries and results belong together: this file shows
how, without a word on aborts being heeded.  An aborted task that goes on counts as sleeping,
and so the list of sleeping tasks says more than in `Debounce.Linked`: there may be several
tasks for one document, and at most one of them has the entry.

* `Debounce.sleeping_act_of_entry`, `Debounce.aborted_perm`: an operation aborts the task that
  the entry of its document names.
* `Tasks.Tracked`: every task has its own number and the generation of that number, every
  entry belongs to a sleeping task, and every result to a task that has woken up.
* `Tasks.tracked_step`, `Tasks.tracked_run`: steps in any order keep it so.
-/
import LuServer.Debounce.Tasks
import LuServer.Proofs.Debounce.Linked
import Mathlib.Algebra.Group.Nat.Defs
import Mathlib.Data.List.Perm.Basic

namespace LuServer

/-! ## What an operation does to entries and tasks -/

namespace Debounce

/-- The entry that an operation replaces or removes. -/
def entry? (d : Debounce) : DebounceOp → Option Ticket
  | .schedule uri _ _ _ _ => d.pending.get? uri
  | .cancel uri => d.pending.get? uri
  | .close uri => d.pending.get? uri
  | .ask _ => none
  | .wait _ => none

/-- Whether an operation aborts a task. -/
def aimsAt (d : Debounce) (op : DebounceOp) (t : Sleeper) : Bool :=
  (d.entry? op).any fun ticket => ticket.task = t.number

/-- The entry that an operation makes for its document. -/
def newTicket? (d : Debounce) (op : DebounceOp) : Option Ticket :=
  (d.newcomer op).head?.map fun t => ⟨t.generation, t.number⟩

variable {d : Debounce} {op : DebounceOp}

theorem concerns_of_entry? {ticket : Ticket} (h : d.entry? op = some ticket) :
    ∃ uri, op.concerns uri = true ∧ d.pending.get? uri = some ticket := by
  cases op with
  | schedule uri text version delay culture => exact ⟨uri, decide_eq_true rfl, h⟩
  | cancel uri => exact ⟨uri, decide_eq_true rfl, h⟩
  | close uri => exact ⟨uri, decide_eq_true rfl, h⟩
  | ask uri => cases h
  | wait duration => cases h

theorem newTicket?_eq_some {ticket : Ticket} (h : d.newTicket? op = some ticket) :
    ∃ t ∈ d.newcomer op, (⟨t.generation, t.number⟩ : Ticket) = ticket := by
  obtain ⟨t, hhead, hticket⟩ := Option.map_eq_some_iff.mp h
  exact ⟨t, List.mem_of_mem_head? hhead, hticket⟩

theorem mem_newcomer {t : Sleeper} (h : t ∈ d.newcomer op) :
    t.number = d.started ∧ t.generation = d.generation ∧
      ∀ uri, op.concerns uri = true ↔ t.uri = uri := by
  cases op with
  | schedule uri text version delay culture =>
    obtain rfl := List.mem_singleton.mp h
    exact ⟨rfl, rfl, fun _ => decide_eq_true_iff⟩
  | cancel uri => cases h
  | close uri => cases h
  | ask uri => cases h
  | wait duration => cases h

/-- The documents that an operation concerns have the new entry or none, and the others keep
theirs. -/
theorem get?_act (d : Debounce) (op : DebounceOp) (name : Uri) :
    (d.act op).pending.get? name
      = if op.concerns name = true then d.newTicket? op else d.pending.get? name := by
  cases op with
  | schedule uri text version delay culture =>
    have hpending : (d.act (.schedule uri text version delay culture)).pending
        = d.pending.insert uri ⟨d.generation, d.started⟩ := by
      simp only [act, schedule]
      split <;> rfl
    rw [hpending, Table.get?_insert]
    simp only [DebounceOp.concerns, newTicket?, newcomer, decide_eq_true_eq, List.head?_cons,
      Option.map_some, @eq_comm _ uri name]
  | cancel uri =>
    simp only [act, get?_cancel, DebounceOp.concerns, newTicket?, newcomer, decide_eq_true_eq,
      List.head?_nil, Option.map_none, @eq_comm _ uri name]
  | close uri =>
    simp only [act, get?_cancel, DebounceOp.concerns, newTicket?, newcomer, decide_eq_true_eq,
      List.head?_nil, Option.map_none, @eq_comm _ uri name]
  | ask uri => rfl
  | wait duration => rfl

theorem started_act (d : Debounce) (op : DebounceOp) :
    (d.act op).started = d.started + (d.newcomer op).length := by
  cases op with
  | schedule uri text version delay culture =>
    simp only [act, schedule]
    split <;> rfl
  | cancel uri => exact started_cancel uri
  | close uri => exact started_cancel uri
  | ask uri => rfl
  | wait duration => rfl

theorem generation_act (d : Debounce) (op : DebounceOp) :
    (d.act op).generation = d.generation + UInt64.ofNat (d.newcomer op).length := by
  cases op with
  | schedule uri text version delay culture =>
    simp only [act, schedule]
    split <;> rfl
  | cancel uri => simp [act, newcomer]
  | close uri => simp [act, newcomer]
  | ask uri => simp [act, newcomer]
  | wait duration => simp [act, advance, newcomer]

/-- Of the sleeping tasks all but the aborted one sleep on, and a new one may fall asleep. -/
theorem sleeping_act_of_entry
    (hnew : ∀ ticket, d.entry? op = some ticket → ticket.task ≠ d.started) :
    (d.act op).sleeping = (d.sleeping.filter fun t => !d.aimsAt op t) ++ d.newcomer op := by
  have hcancel : ∀ uri, (d.cancel uri).sleeping
      = d.sleeping.filter fun t => !(d.pending.get? uri).any fun ticket =>
          ticket.task = t.number := by
    intro uri
    unfold cancel
    cases d.pending.get? uri with
    | none => simp
    | some ticket => simp [abort, eq_comm]
  cases op with
  | schedule uri text version delay culture =>
    simp only [act, schedule, aimsAt, entry?, newcomer]
    cases hticket : d.pending.get? uri with
    | none => simp [spawn]
    | some ticket =>
      have hne : d.started ≠ ticket.task := (hnew ticket hticket).symm
      simp [spawn, abort, hne, eq_comm]
  | cancel uri => simp only [act, hcancel, aimsAt, entry?, newcomer, List.append_nil]
  | close uri => simp only [act, hcancel, aimsAt, entry?, newcomer, List.append_nil]
  | ask uri => simp [act, aimsAt, entry?, newcomer]
  | wait duration => simp [act, advance, aimsAt, entry?, newcomer]

/-- No task gets lost when an operation aborts one and starts one. -/
theorem aborted_perm (hnew : ∀ ticket, d.entry? op = some ticket → ticket.task ≠ d.started)
    (hlt : ∀ t ∈ d.sleeping, t.number < d.started) :
    ((d.act op).sleeping ++ d.aborted op).Perm (d.sleeping ++ d.newcomer op) := by
  have haborted : d.aborted op = d.sleeping.filter fun t => d.aimsAt op t := by
    refine List.filter_congr ?_
    intro t ht
    have hold : t ∉ d.newcomer op := by
      intro hmem
      have hstarted := (mem_newcomer hmem).1
      have := hlt t ht
      omega
    simp [sleeping_act_of_entry hnew, hold, ht]
  rw [haborted, sleeping_act_of_entry hnew, List.append_assoc]
  have hsplit := List.filter_append_perm (fun t => !d.aimsAt op t) d.sleeping
  simp only [Bool.not_not] at hsplit
  refine (List.perm_append_comm.append_left _).trans ?_
  rw [← List.append_assoc]
  exact hsplit.append_right _

@[simp] theorem now_wake (d : Debounce) (t : Sleeper) : (d.wake t).1.now = d.now := by
  unfold wake
  repeat' split
  all_goals rfl

@[simp] theorem started_wake (d : Debounce) (t : Sleeper) :
    (d.wake t).1.started = d.started := by
  unfold wake
  repeat' split
  all_goals rfl

@[simp] theorem generation_wake (d : Debounce) (t : Sleeper) :
    (d.wake t).1.generation = d.generation := by
  unfold wake
  repeat' split
  all_goals rfl

@[simp] theorem sleeping_wake (d : Debounce) (t : Sleeper) :
    (d.wake t).1.sleeping = d.sleeping := by
  unfold wake
  repeat' split
  all_goals rfl

/-- A task finds the entry of its own generation, takes it and publishes, or it finds another
or none, and nothing changes. -/
theorem wake_cases (d : Debounce) (t : Sleeper) :
    (∃ ticket, d.pending.get? t.uri = some ticket ∧ ticket.generation = t.generation ∧
      d.wake t = ({ d with
          pending := d.pending.erase t.uri
          parses := d.parses + cost t.validation },
        [outcome t.validation])) ∨
    ((∀ ticket, d.pending.get? t.uri = some ticket → ticket.generation ≠ t.generation) ∧
      d.wake t = (d, [])) := by
  unfold wake
  cases hticket : d.pending.get? t.uri with
  | none => exact Or.inr ⟨by simp, rfl⟩
  | some ticket =>
    by_cases hown : ticket.generation = t.generation
    · exact Or.inl ⟨ticket, rfl, hown, if_pos hown⟩
    · refine Or.inr ⟨?_, if_neg hown⟩
      rintro _ ⟨⟩
      exact hown

end Debounce

namespace Tasks

/-! ## The invariant -/

/-- All messages so far, with those that have reached the editor first. -/
def messages (s : Tasks) : List Delivery :=
  s.delivered ++ s.underway

/-- The diagnostics that have been sent off for calls so far. -/
def results (s : Tasks) : List Delivery :=
  s.messages.filter Delivery.isResult

/-- Tasks, entries and results belong to each other. -/
structure Tracked (s : Tasks) : Prop where
  generation : s.debounce.generation = UInt64.ofNat s.calls
  numbers : (s.tasks.map Sleeper.number).Perm (List.range s.calls)
  generations : ∀ t ∈ s.tasks, t.generation = UInt64.ofNat t.number
  owner : ∀ uri ticket, s.debounce.pending.get? uri = some ticket →
    ∃ t ∈ s.debounce.sleeping, t.uri = uri ∧ ticket = ⟨t.generation, t.number⟩
  sender : ∀ m ∈ s.results, ∃ t ∈ s.past, t.number = m.call ∧
    m.publication = Debounce.outcome t.validation
  once : (s.results.map Delivery.call).Nodup

/-- At the start there is nothing to keep track of. -/
theorem tracked_empty : Tracked {} where
  generation := rfl
  numbers := List.Perm.refl _
  generations := by simp [tasks]
  owner := by simp
  sender := by simp [results, messages]
  once := by simp [results, messages]

namespace Tracked

variable {s : Tasks}

theorem numbers_nodup (h : s.Tracked) : (s.tasks.map Sleeper.number).Nodup :=
  h.numbers.nodup_iff.mpr List.nodup_range

theorem sleeping_nodup (h : s.Tracked) : (s.debounce.sleeping.map Sleeper.number).Nodup := by
  have hnodup := h.numbers_nodup
  rw [tasks, List.map_append] at hnodup
  exact (List.nodup_append.mp hnodup).1

theorem number_lt (h : s.Tracked) {t : Sleeper} (ht : t ∈ s.tasks) : t.number < s.calls := by
  have hmem := h.numbers.mem_iff.mp (List.mem_map_of_mem ht)
  exact List.mem_range.mp hmem

/-- A task is known by its number. -/
theorem eq_of_number (h : s.Tracked) {t r : Sleeper} (ht : t ∈ s.tasks) (hr : r ∈ s.tasks)
    (heq : t.number = r.number) : t = r :=
  List.inj_on_of_nodup_map h.numbers_nodup ht hr heq

/-- Below the bound, a task is known by its generation. -/
theorem eq_of_generation (h : s.Tracked) (hfew : s.calls ≤ 2 ^ 64) {t r : Sleeper}
    (ht : t ∈ s.tasks) (hr : r ∈ s.tasks) (heq : t.generation = r.generation) : t = r := by
  refine h.eq_of_number ht hr ?_
  have hlt := h.number_lt ht
  have hlt' := h.number_lt hr
  rw [h.generations t ht, h.generations r hr] at heq
  have hnat := congrArg UInt64.toNat heq
  rwa [UInt64.toNat_ofNat_of_lt' (Nat.lt_of_lt_of_le hlt hfew),
    UInt64.toNat_ofNat_of_lt' (Nat.lt_of_lt_of_le hlt' hfew)] at hnat

/-- A sleeping task has not woken up yet. -/
theorem ne_of_past (h : s.Tracked) {t r : Sleeper} (ht : t ∈ s.debounce.sleeping)
    (hr : r ∈ s.past) : t.number ≠ r.number := by
  have hnodup := h.numbers_nodup
  rw [tasks, List.map_append, List.nodup_append] at hnodup
  exact hnodup.2.2 _ (List.mem_map_of_mem ht) _ (List.mem_map_of_mem hr)

/-- A sleeping task has sent no result off. -/
theorem ne_of_results (h : s.Tracked) {t : Sleeper} (ht : t ∈ s.debounce.sleeping)
    {m : Delivery} (hm : m ∈ s.results) : m.call ≠ t.number := by
  obtain ⟨r, hr, hnumber, -⟩ := h.sender m hm
  rw [← hnumber]
  exact (h.ne_of_past ht hr).symm

/-- The task that has the entry of a document, if a sleeping task has its number. -/
theorem uri_of_task (h : s.Tracked) {uri : Uri} {ticket : Ticket}
    (hticket : s.debounce.pending.get? uri = some ticket) {t : Sleeper}
    (ht : t ∈ s.debounce.sleeping) (htask : ticket.task = t.number) : t.uri = uri := by
  obtain ⟨r, hr, hruri, rfl⟩ := h.owner uri ticket hticket
  rw [← h.eq_of_number (List.mem_append_left _ hr) (List.mem_append_left _ ht) htask]
  exact hruri

/-- No operation aborts the task that it starts. -/
theorem entry_ne (h : s.Tracked) {op : DebounceOp} :
    ∀ ticket, s.debounce.entry? op = some ticket → ticket.task ≠ s.calls := by
  intro ticket hentry
  obtain ⟨uri, -, hticket⟩ := Debounce.concerns_of_entry? hentry
  obtain ⟨t, ht, -, rfl⟩ := h.owner uri ticket hticket
  exact Nat.ne_of_lt (h.number_lt (List.mem_append_left _ ht))

/-- No operation aborts the task of a document that it does not concern. -/
theorem aimsAt_eq_false (h : s.Tracked) {op : DebounceOp} {t : Sleeper}
    (ht : t ∈ s.debounce.sleeping) (hop : ¬op.concerns t.uri = true) :
    s.debounce.aimsAt op t = false := by
  by_contra haims
  rw [Bool.not_eq_false, Debounce.aimsAt, Option.any_eq_true] at haims
  obtain ⟨ticket, hentry, htask⟩ := haims
  obtain ⟨uri, huri, hticket⟩ := Debounce.concerns_of_entry? hentry
  rw [← h.uri_of_task hticket ht (of_decide_eq_true htask)] at huri
  exact hop huri

end Tracked

/-! ## Steps of callers -/

section Act

variable {s : Tasks} {op : DebounceOp} {heeded : Bool}

@[simp] theorem pending_act : (s.act op heeded).debounce.pending = (s.debounce.act op).pending := by
  cases heeded <;> rfl

theorem calls_act : (s.act op heeded).calls = s.calls + (s.debounce.newcomer op).length := by
  rw [← Debounce.started_act]
  cases heeded <;> rfl

/-- A close sends an empty list off, and no operation sends a result off. -/
@[simp] theorem results_act : (s.act op heeded).results = s.results := by
  have hannounce : ((s.debounce.announce op).map (Delivery.mk s.calls)).filter Delivery.isResult
      = [] := by
    cases op <;> rfl
  simp [results, messages, act, hannounce]

/-- Whether the aborted task stops or not, the tasks are those there were and the new one. -/
theorem tasks_act_perm (h : s.Tracked) :
    (s.act op heeded).tasks.Perm (s.tasks ++ s.debounce.newcomer op) := by
  have hperm : ((s.debounce.act op).sleeping ++ s.debounce.aborted op).Perm
      (s.debounce.sleeping ++ s.debounce.newcomer op) :=
    Debounce.aborted_perm h.entry_ne fun t ht => h.number_lt (List.mem_append_left _ ht)
  have htasks : (s.act op heeded).tasks.Perm
      (((s.debounce.act op).sleeping ++ s.debounce.aborted op) ++ s.past) := by
    cases heeded with
    | true =>
      simp only [act, tasks, if_true, List.append_assoc]
      exact List.perm_append_comm.append_left _
    | false => exact List.Perm.refl _
  refine htasks.trans ((hperm.append_right _).trans ?_)
  rw [tasks, List.append_assoc, List.append_assoc]
  exact List.perm_append_comm.append_left _

/-- The tasks that are not aborted sleep on in either case. -/
theorem mem_sleeping_act {t : Sleeper} (ht : t ∈ (s.debounce.act op).sleeping) :
    t ∈ (s.act op heeded).debounce.sleeping := by
  cases heeded with
  | true => exact ht
  | false => exact List.mem_append_left _ ht

/-- Operations keep track. -/
theorem tracked_act (h : s.Tracked) : (s.act op heeded).Tracked where
  generation := by
    have hgeneration : (s.act op heeded).debounce.generation
        = (s.debounce.act op).generation := by
      cases heeded <;> rfl
    rw [hgeneration, Debounce.generation_act, calls_act, h.generation, UInt64.ofNat_add]
  numbers := by
    have hnew : (s.debounce.newcomer op).map Sleeper.number
        = (List.range (s.debounce.newcomer op).length).map (s.calls + ·) := by
      cases op <;> rfl
    rw [calls_act, List.range_add, ← hnew]
    refine ((tasks_act_perm h).map _).trans ?_
    rw [List.map_append]
    exact h.numbers.append_right _
  generations := by
    intro t ht
    rcases List.mem_append.mp ((tasks_act_perm h).mem_iff.mp ht) with hold | hnew
    · exact h.generations t hold
    · obtain ⟨hnumber, hgeneration, -⟩ := Debounce.mem_newcomer hnew
      rw [hgeneration, hnumber, h.generation]
  owner := by
    intro uri ticket hticket
    rw [pending_act, Debounce.get?_act] at hticket
    by_cases hop : op.concerns uri = true
    · rw [if_pos hop] at hticket
      obtain ⟨t, hnew, rfl⟩ := Debounce.newTicket?_eq_some hticket
      refine ⟨t, mem_sleeping_act ?_, ((Debounce.mem_newcomer hnew).2.2 uri).mp hop, rfl⟩
      rw [Debounce.sleeping_act_of_entry h.entry_ne]
      exact List.mem_append_right _ hnew
    · rw [if_neg hop] at hticket
      obtain ⟨t, ht, rfl, hown⟩ := h.owner uri ticket hticket
      refine ⟨t, mem_sleeping_act ?_, rfl, hown⟩
      rw [Debounce.sleeping_act_of_entry h.entry_ne]
      refine List.mem_append_left _ (List.mem_filter.mpr ⟨ht, ?_⟩)
      rw [h.aimsAt_eq_false ht hop, Bool.not_false]
  sender := by
    intro m hm
    rw [results_act] at hm
    obtain ⟨t, ht, hsent⟩ := h.sender m hm
    refine ⟨t, ?_, hsent⟩
    cases heeded with
    | true => exact List.mem_append_left _ ht
    | false => exact ht
  once := by
    rw [results_act]
    exact h.once

end Act

/-! ## Steps of tasks and messages -/

section Wake

variable {s : Tasks} {t : Sleeper}

/-- What a task sends off is a result. -/
theorem results_wake : (s.wake t).results
    = s.results ++ (s.debounce.wake t).2.map (Delivery.mk t.number) := by
  have hpublished : ((s.debounce.wake t).2.map (Delivery.mk t.number)).filter Delivery.isResult
      = (s.debounce.wake t).2.map (Delivery.mk t.number) := by
    rcases s.debounce.wake_cases t with ⟨ticket, -, -, hwake⟩ | ⟨-, hwake⟩ <;> rw [hwake] <;> rfl
  simp only [results, messages, wake, List.filter_append, hpublished, List.append_assoc]

theorem calls_wake : (s.wake t).calls = s.calls :=
  s.debounce.started_wake t

theorem sleeping_wake :
    (s.wake t).debounce.sleeping = s.debounce.sleeping.filter fun r => r ≠ t := by
  simp only [wake, Debounce.sleeping_wake]

/-- A sleeping task that is due can wake up: its number is that of no other. -/
theorem step_wake (hnumbers : (s.debounce.sleeping.map Sleeper.number).Nodup)
    (ht : t ∈ s.debounce.sleeping) (hdue : t.validation.due ≤ s.debounce.now) :
    s.step (.wake t.number) = s.wake t := by
  have hfind : s.debounce.sleeping.find?
      (fun r => r.number = t.number ∧ r.validation.due ≤ s.debounce.now) = some t := by
    cases hfind : s.debounce.sleeping.find?
        (fun r => r.number = t.number ∧ r.validation.due ≤ s.debounce.now) with
    | none =>
      have hnone := List.find?_eq_none.mp hfind t ht
      exact absurd (decide_eq_true ⟨rfl, hdue⟩) hnone
    | some r =>
      have hr := List.mem_of_find?_eq_some hfind
      have hfound := List.find?_some hfind
      rw [decide_eq_true_eq] at hfound
      rw [List.inj_on_of_nodup_map hnumbers hr ht hfound.1]
  simp only [step, hfind]

/-- A task that wakes up only changes sides. -/
theorem tasks_wake_perm (h : s.Tracked) (ht : t ∈ s.debounce.sleeping) :
    (s.wake t).tasks.Perm s.tasks := by
  have hnodup : s.debounce.sleeping.Nodup := List.Nodup.of_map _ h.sleeping_nodup
  have herase : (s.wake t).debounce.sleeping = s.debounce.sleeping.erase t := by
    rw [sleeping_wake, hnodup.erase_eq_filter]
    refine List.filter_congr ?_
    intro r _
    simp [bne, BEq.beq]
  have hback : (s.debounce.sleeping.erase t ++ [t]).Perm s.debounce.sleeping :=
    List.perm_append_comm.trans (List.perm_cons_erase ht).symm
  have hpast : (s.wake t).past = s.past ++ [t] := rfl
  rw [tasks, tasks, herase, hpast]
  refine (List.perm_append_comm.append_left _).trans ?_
  rw [← List.append_assoc]
  exact hback.append_right _

/-- A task that wakes up keeps track. -/
theorem tracked_wake (h : s.Tracked) (ht : t ∈ s.debounce.sleeping) : (s.wake t).Tracked where
  generation := by
    rw [calls_wake, ← h.generation]
    exact s.debounce.generation_wake t
  numbers := by
    rw [calls_wake]
    exact ((tasks_wake_perm h ht).map _).trans h.numbers
  generations := by
    intro r hr
    exact h.generations r ((tasks_wake_perm h ht).mem_iff.mp hr)
  owner := by
    intro uri ticket hticket
    -- the entry was there before, and it was not that of `t`
    have hbefore : s.debounce.pending.get? uri = some ticket ∧
        (uri = t.uri → ticket.generation ≠ t.generation) := by
      rcases s.debounce.wake_cases t with ⟨taken, -, -, hwake⟩ | ⟨hother, hwake⟩
      · simp only [wake, hwake, Table.get?_erase] at hticket
        split at hticket
        · cases hticket
        · rename_i hne
          exact ⟨hticket, fun heq => absurd heq hne⟩
      · simp only [wake, hwake] at hticket
        exact ⟨hticket, fun heq => hother ticket (heq ▸ hticket)⟩
    obtain ⟨hold, hother⟩ := hbefore
    obtain ⟨r, hr, rfl, rfl⟩ := h.owner uri ticket hold
    refine ⟨r, ?_, rfl, rfl⟩
    rw [sleeping_wake, List.mem_filter, decide_eq_true_eq]
    refine ⟨hr, ?_⟩
    rintro rfl
    exact hother rfl rfl
  sender := by
    intro m hm
    rw [results_wake, List.mem_append] at hm
    rcases hm with hold | hnew
    · obtain ⟨r, hr, hsent⟩ := h.sender m hold
      exact ⟨r, List.mem_append_left _ hr, hsent⟩
    · refine ⟨t, List.mem_append_right _ (List.mem_singleton_self t), ?_⟩
      rcases s.debounce.wake_cases t with ⟨ticket, -, -, hwake⟩ | ⟨-, hwake⟩
      · rw [hwake, List.map_singleton, List.mem_singleton] at hnew
        rw [hnew]
        exact ⟨rfl, rfl⟩
      · rw [hwake] at hnew
        cases hnew
  once := by
    rw [results_wake]
    rcases s.debounce.wake_cases t with ⟨ticket, -, -, hwake⟩ | ⟨-, hwake⟩
    · rw [hwake, List.map_singleton, List.map_append, List.map_singleton]
      refine h.once.append (List.nodup_singleton _) ?_
      intro number hold hnew
      obtain ⟨m, hm, rfl⟩ := List.mem_map.mp hold
      exact h.ne_of_results ht hm (List.mem_singleton.mp hnew)
    · rw [hwake, List.map_nil, List.append_nil]
      exact h.once

/-- A message that arrives is one that was under way. -/
theorem messages_deliver_perm (s : Tasks) (place : Nat) :
    (s.deliver place).messages.Perm s.messages := by
  simp only [messages, deliver, List.append_assoc]
  refine List.Perm.append_left _ ?_
  by_cases hplace : place < s.underway.length
  · rw [List.getElem?_eq_getElem hplace]
    exact List.getElem_cons_eraseIdx_perm hplace
  · rw [List.getElem?_eq_none (by omega), List.eraseIdx_of_length_le (by omega)]
    exact List.Perm.refl _

/-- A message that arrives keeps track. -/
theorem tracked_deliver (h : s.Tracked) (place : Nat) : (s.deliver place).Tracked where
  generation := h.generation
  numbers := h.numbers
  generations := h.generations
  owner := h.owner
  sender := by
    intro m hm
    exact h.sender m (((messages_deliver_perm s place).filter _).mem_iff.mp hm)
  once := (((messages_deliver_perm s place).filter _).map _).nodup_iff.mpr h.once

end Wake

/-! ## Runs -/

/-- What holds after an operation, after a task has woken up, after a message has arrived, and
before any of these, holds after a step. -/
theorem step_induction {s : Tasks} {motive : Tasks → Prop} (same : motive s)
    (act : ∀ op heeded, motive (s.act op heeded))
    (wake : ∀ t ∈ s.debounce.sleeping, motive (s.wake t))
    (deliver : ∀ place, motive (s.deliver place)) (a : TaskStep) : motive (s.step a) := by
  cases a with
  | act op heeded => exact act op heeded
  | wake number =>
    simp only [step]
    split
    · rename_i t hfind
      exact wake t (List.mem_of_find?_eq_some hfind)
    · exact same
  | deliver place => exact deliver place

/-- Every step keeps track. -/
theorem tracked_step {s : Tasks} (h : s.Tracked) (a : TaskStep) : (s.step a).Tracked :=
  step_induction h (fun _ _ => tracked_act h) (fun _ ht => tracked_wake h ht)
    (tracked_deliver h) a

/-- Steps in any order keep track. -/
theorem tracked_run {s : Tasks} (h : s.Tracked) (steps : List TaskStep) :
    (s.run steps).Tracked := by
  induction steps generalizing s with
  | nil => exact h
  | cons a as ih => exact ih (tracked_step h a)

end Tasks

end LuServer
