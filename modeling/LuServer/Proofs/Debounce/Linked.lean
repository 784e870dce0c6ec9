/-
# Entries and sleeping tasks

Two things know what waits: the table of entries and the list of sleeping tasks.
They are changed together, and this file shows that they never drift apart.

* `Linked`: every sleeping task has the entry of its document, with its own
  generation, and every entry belongs to a sleeping task.
* `schedule_eq`: a call first cancels what waits for its document.
* `sleeping_act`: the tasks that sleep after an operation.
* `settle_eq`: of tasks that are due, none finds its entry taken.
* `linked_step`: every operation keeps the invariant.
-/
import LuServer.Debounce
import Mathlib.Data.List.Nodup

namespace LuServer

namespace Table

variable {κ α : Type} [DecidableEq κ]

/-- What stood for a key does not matter once the key has a new value. -/
theorem insert_erase_self (t : Table κ α) (k : κ) (a : α) :
    (t.erase k).insert k a = t.insert k a := by
  simp only [insert, erase, List.filter_filter, Bool.and_self]

/-- After some keys are erased, the others have their values. -/
theorem get?_foldl_erase (ks : List κ) (t : Table κ α) (k : κ) :
    (ks.foldl erase t).get? k = if k ∈ ks then none else t.get? k := by
  induction ks generalizing t with
  | nil => simp
  | cons j ks ih =>
    rw [List.foldl_cons, ih, get?_erase]
    by_cases hk : k ∈ ks
    · simp [hk]
    · by_cases hj : k = j <;> simp [hk, hj]

end Table

namespace DebounceOp

/-- Whether an operation replaces, forgets or closes what waits for a document. -/
def concerns (uri : Uri) : DebounceOp → Bool
  | .schedule name _ _ _ _ => name = uri
  | .cancel name => name = uri
  | .close name => name = uri
  | .ask _ => false
  | .wait _ => false

/-- The time that an operation takes. -/
def duration : DebounceOp → Nat
  | .wait duration => duration
  | _ => 0

end DebounceOp

namespace Debounce

/-! ## The invariant -/

/-- Entries and sleeping tasks belong to each other. -/
structure Linked (d : Debounce) : Prop where
  ticket_of_sleeping : ∀ s ∈ d.sleeping, d.pending.get? s.uri = some ⟨s.generation, s.number⟩
  sleeping_of_ticket : ∀ uri ticket, d.pending.get? uri = some ticket →
    ∃ s ∈ d.sleeping, s.uri = uri
  numbers : (d.sleeping.map Sleeper.number).Nodup
  number_lt : ∀ s ∈ d.sleeping, s.number < d.started

/-- At the start nothing waits. -/
theorem linked_empty : Linked {} where
  ticket_of_sleeping := by simp
  sleeping_of_ticket := by simp
  numbers := by simp
  number_lt := by simp

namespace Linked

variable {d : Debounce}

/-- The entry of a document names the task that sleeps for it. -/
theorem task_eq (h : d.Linked) {s : Sleeper} (hs : s ∈ d.sleeping) {ticket : Ticket}
    (ht : d.pending.get? s.uri = some ticket) : ticket.task = s.number := by
  rw [h.ticket_of_sleeping s hs] at ht
  injection ht with ht
  rw [← ht]

/-- No two tasks sleep for one document. -/
theorem uris (h : d.Linked) : (d.sleeping.map Sleeper.uri).Nodup := by
  refine (List.Nodup.of_map _ h.numbers).map_on ?_
  intro a ha b hb hab
  refine List.inj_on_of_nodup_map h.numbers ha hb ?_
  have hta := h.ticket_of_sleeping a ha
  rw [hab] at hta
  exact (h.task_eq hb hta)

/-- The task of an entry is the one that sleeps for its document. -/
theorem number_eq_iff (h : d.Linked) {uri : Uri} {ticket : Ticket}
    (ht : d.pending.get? uri = some ticket) {s : Sleeper} (hs : s ∈ d.sleeping) :
    s.number = ticket.task ↔ s.uri = uri := by
  constructor
  · intro hnumber
    obtain ⟨r, hr, rfl⟩ := h.sleeping_of_ticket uri ticket ht
    rw [h.task_eq hr ht] at hnumber
    rw [List.inj_on_of_nodup_map h.numbers hs hr hnumber]
  · rintro rfl
    exact (h.task_eq hs ht).symm

/-- A document waits exactly if a task sleeps for it. -/
theorem isPending_iff (h : d.Linked) (uri : Uri) :
    d.isPending uri = true ↔ ∃ s ∈ d.sleeping, s.uri = uri := by
  rw [isPending, Table.contains, Option.isSome_iff_exists]
  constructor
  · rintro ⟨ticket, ht⟩
    exact h.sleeping_of_ticket uri ticket ht
  · rintro ⟨s, hs, rfl⟩
    exact ⟨_, h.ticket_of_sleeping s hs⟩

/-- Tasks may go, if their entries go with them and no other entry does. -/
theorem keep (h : d.Linked) {e : Debounce} (p : Sleeper → Bool)
    (hsleeping : e.sleeping = d.sleeping.filter p) (hstarted : e.started = d.started)
    (hpending : ∀ uri, e.pending.get? uri = d.pending.get? uri ∨ e.pending.get? uri = none)
    (hkept : ∀ s ∈ d.sleeping, p s = true ↔ e.pending.get? s.uri ≠ none) : e.Linked where
  ticket_of_sleeping := by
    intro s hs
    rw [hsleeping, List.mem_filter] at hs
    rcases hpending s.uri with hsame | hnone
    · rw [hsame, h.ticket_of_sleeping s hs.1]
    · exact absurd hnone ((hkept s hs.1).mp hs.2)
  sleeping_of_ticket := by
    intro uri ticket ht
    rcases hpending uri with hsame | hnone
    · obtain ⟨s, hs, rfl⟩ := h.sleeping_of_ticket uri ticket (hsame ▸ ht)
      refine ⟨s, ?_, rfl⟩
      rw [hsleeping, List.mem_filter]
      exact ⟨hs, (hkept s hs).mpr (by rw [ht]; simp)⟩
    · rw [hnone] at ht
      cases ht
  numbers := by
    rw [hsleeping]
    exact h.numbers.sublist (List.filter_sublist.map _)
  number_lt := by
    intro s hs
    rw [hsleeping, List.mem_filter] at hs
    rw [hstarted]
    exact h.number_lt s hs.1

end Linked

/-! ## Calls and cancellations -/

section Operations

variable {d : Debounce}

@[simp] theorem now_cancel (uri : Uri) : (d.cancel uri).now = d.now := by
  unfold cancel
  split <;> rfl

@[simp] theorem parses_cancel (uri : Uri) : (d.cancel uri).parses = d.parses := by
  unfold cancel
  split <;> rfl

@[simp] theorem started_cancel (uri : Uri) : (d.cancel uri).started = d.started := by
  unfold cancel
  split <;> rfl

@[simp] theorem generation_cancel (uri : Uri) : (d.cancel uri).generation = d.generation := by
  unfold cancel
  split <;> rfl

/-- A cancelled document has no entry, and the others keep theirs. -/
theorem get?_cancel (uri name : Uri) :
    (d.cancel uri).pending.get? name = if name = uri then none else d.pending.get? name := by
  unfold cancel
  split
  · exact Table.get?_erase ..
  · rename_i hnone
    by_cases hn : name = uri
    · rw [if_pos hn, hn, hnone]
    · rw [if_neg hn]

/-- A cancelled document has no sleeping task, and the others keep theirs. -/
theorem sleeping_cancel (h : d.Linked) (uri : Uri) :
    (d.cancel uri).sleeping = d.sleeping.filter fun s => s.uri ≠ uri := by
  unfold cancel
  split
  · rename_i ticket ht
    refine List.filter_congr ?_
    intro s hs
    simp only [ne_eq, h.number_eq_iff ht hs]
  · rename_i hnone
    refine (List.filter_eq_self.mpr ?_).symm
    intro s hs
    simp only [ne_eq, decide_not, Bool.not_eq_eq_eq_not, Bool.not_true, decide_eq_false_iff_not]
    rintro rfl
    rw [h.ticket_of_sleeping s hs] at hnone
    cases hnone

/-- A cancellation keeps entries and tasks together. -/
theorem linked_cancel (h : d.Linked) (uri : Uri) : (d.cancel uri).Linked := by
  refine h.keep _ (sleeping_cancel h uri) (started_cancel uri) ?_ ?_
  · intro name
    rw [get?_cancel]
    by_cases hn : name = uri
    · exact Or.inr (if_pos hn)
    · exact Or.inl (if_neg hn)
  · intro s hs
    rw [get?_cancel, h.ticket_of_sleeping s hs]
    by_cases hn : s.uri = uri <;> simp [hn]

/-- A call first cancels what waits for its document. -/
theorem schedule_eq (h : d.Linked) (uri : Uri) (text : Text) (version : Int) (delay : Nat)
    (culture : Text) :
    d.schedule uri text version delay culture
      = (d.cancel uri).spawn ⟨uri, text, culture, version, d.now + delay⟩ := by
  unfold schedule cancel
  cases ht : d.pending.get? uri with
  | none => rfl
  | some ticket =>
    obtain ⟨s, hs, rfl⟩ := h.sleeping_of_ticket uri ticket ht
    -- no number is given twice, so the new task survives the abort
    have hnew : d.started ≠ ticket.task := by
      have hlt := h.number_lt s hs
      rw [h.task_eq hs ht]
      omega
    simp only [spawn, abort, List.filter_append, Table.insert_erase_self]
    simp [hnew]

/-- A task may start for a document that does not wait. -/
theorem linked_spawn (h : d.Linked) {v : Validation} (hv : d.pending.get? v.uri = none) :
    (d.spawn v).Linked where
  ticket_of_sleeping := by
    intro s hs
    simp only [spawn, List.mem_append, List.mem_singleton] at hs
    rw [spawn, Table.get?_insert]
    rcases hs with hs | rfl
    · -- an older task for the same document would have left an entry
      have hne : s.uri ≠ v.uri := by
        intro heq
        rw [← heq, h.ticket_of_sleeping s hs] at hv
        cases hv
      rw [if_neg hne, h.ticket_of_sleeping s hs]
    · simp
  sleeping_of_ticket := by
    intro name ticket ht
    rw [spawn, Table.get?_insert] at ht
    by_cases hn : name = v.uri
    · exact ⟨_, List.mem_append_right _ (List.mem_singleton_self _), hn.symm⟩
    · rw [if_neg hn] at ht
      obtain ⟨s, hs, hsn⟩ := h.sleeping_of_ticket name ticket ht
      exact ⟨s, List.mem_append_left _ hs, hsn⟩
  numbers := by
    simp only [spawn, List.map_append, List.map_cons, List.map_nil]
    refine h.numbers.append (List.nodup_singleton _) ?_
    intro n hn hn'
    obtain ⟨s, hs, rfl⟩ := List.mem_map.mp hn
    have hlt := h.number_lt s hs
    have heq := List.mem_singleton.mp hn'
    omega
  number_lt := by
    intro s hs
    simp only [spawn, List.mem_append, List.mem_singleton] at hs ⊢
    rcases hs with hs | rfl
    · have hlt := h.number_lt s hs
      omega
    · simp

/-- The task that an operation starts. -/
def newcomer (d : Debounce) : DebounceOp → List Sleeper
  | .schedule uri text version delay culture =>
    [⟨d.started, d.generation, ⟨uri, text, culture, version, d.now + delay⟩⟩]
  | _ => []

/-- An operation ends the sleep of the tasks it concerns, and may start one. -/
theorem sleeping_act (h : d.Linked) (op : DebounceOp) :
    (d.act op).sleeping
      = (d.sleeping.filter fun s => !op.concerns s.uri) ++ d.newcomer op := by
  have hcancel : ∀ uri, (d.cancel uri).sleeping
      = d.sleeping.filter fun s => !decide (uri = s.uri) := by
    intro uri
    rw [sleeping_cancel h uri]
    refine List.filter_congr ?_
    intro s _
    simp only [ne_eq, decide_not, eq_comm]
  cases op with
  | schedule uri text version delay culture =>
    simp only [act, schedule_eq h, spawn, hcancel, newcomer, DebounceOp.concerns, started_cancel,
      generation_cancel]
  | cancel uri => simp only [act, hcancel, newcomer, DebounceOp.concerns, List.append_nil]
  | close uri => simp only [act, hcancel, newcomer, DebounceOp.concerns, List.append_nil]
  | ask uri => simp [act, newcomer, DebounceOp.concerns]
  | wait duration => simp [act, advance, newcomer, DebounceOp.concerns]

/-- Only waiting moves the clock. -/
theorem now_act (h : d.Linked) (op : DebounceOp) : (d.act op).now = d.now + op.duration := by
  cases op with
  | schedule uri text version delay culture =>
    simp only [act, schedule_eq h, spawn, now_cancel, DebounceOp.duration, Nat.add_zero]
  | cancel uri => simp [act, DebounceOp.duration]
  | close uri => simp [act, DebounceOp.duration]
  | ask uri => simp [act, DebounceOp.duration]
  | wait duration => simp [act, advance, DebounceOp.duration]

/-- No text is read before something is due. -/
theorem parses_act (h : d.Linked) (op : DebounceOp) : (d.act op).parses = d.parses := by
  cases op with
  | schedule uri text version delay culture =>
    simp only [act, schedule_eq h, spawn, parses_cancel]
  | cancel uri => simp [act]
  | close uri => simp [act]
  | ask uri => rfl
  | wait duration => rfl

/-- Operations keep entries and tasks together. -/
theorem linked_act (h : d.Linked) (op : DebounceOp) : (d.act op).Linked := by
  cases op with
  | schedule uri text version delay culture =>
    simp only [act, schedule_eq h]
    refine linked_spawn (linked_cancel h uri) ?_
    rw [get?_cancel, if_pos rfl]
  | cancel uri => exact linked_cancel h uri
  | close uri => exact linked_cancel h uri
  | ask uri => exact h
  | wait duration => exact ⟨h.1, h.2, h.3, h.4⟩

end Operations

/-! ## Waking up -/

/-- The empty text is not read, any other text is read once. -/
theorem cost_eq (v : Validation) : cost v = if v.text = [] then 0 else 1 := by
  unfold cost diagnose
  split
  · rfl
  · rw [Counted.parses_bind]
    cases (Counted.parse v.text v.culture).value <;> rfl

/-- A task that finds its own entry takes it and publishes. -/
theorem wake_eq {d : Debounce} {s : Sleeper}
    (hs : d.pending.get? s.uri = some ⟨s.generation, s.number⟩) :
    d.wake s
      = ({ d with
          pending := d.pending.erase s.uri
          parses := d.parses + cost s.validation },
        [outcome s.validation]) := by
  simp only [wake, hs, if_true]

/-- Tasks of different documents that own their entries all publish. -/
theorem wakeAll_eq (ss : List Sleeper) (d : Debounce) (hu : (ss.map Sleeper.uri).Nodup)
    (ht : ∀ s ∈ ss, d.pending.get? s.uri = some ⟨s.generation, s.number⟩) :
    d.wakeAll ss
      = ({ d with
          pending := (ss.map Sleeper.uri).foldl Table.erase d.pending
          parses := d.parses + ss.countP fun s => s.validation.text ≠ [] },
        ss.map fun s => outcome s.validation) := by
  induction ss generalizing d with
  | nil => rfl
  | cons s ss ih =>
    rw [List.map_cons, List.nodup_cons] at hu
    -- the entry of `s` goes, and no later task needs it
    have hrest : ∀ r ∈ ss, (d.pending.erase s.uri).get? r.uri
        = some ⟨r.generation, r.number⟩ := by
      intro r hr
      have hne : r.uri ≠ s.uri := fun he => hu.1 (he ▸ List.mem_map_of_mem hr)
      rw [Table.get?_erase, if_neg hne]
      exact ht r (List.mem_cons_of_mem _ hr)
    rw [wakeAll, wake_eq (ht s List.mem_cons_self)]
    simp only
    rw [ih _ hu.2 hrest, cost_eq]
    have hcount : (d.parses + if s.validation.text = [] then 0 else 1)
          + ss.countP (fun s => s.validation.text ≠ [])
        = d.parses + (s :: ss).countP fun s => s.validation.text ≠ [] := by
      rw [List.countP_cons]
      by_cases htext : s.validation.text = []
      · simp [htext]
      · simp only [htext, ne_eq, not_false_eq_true, decide_true, if_true, if_false]
        omega
    simp only [hcount, List.map_cons, List.foldl_cons, List.singleton_append]

/-- The tasks that are due are sleeping tasks. -/
theorem mem_due {d : Debounce} {s : Sleeper} :
    s ∈ d.due ↔ s ∈ d.sleeping ∧ s.validation.due ≤ d.now := by
  rw [due, List.mem_mergeSort, List.mem_filter, decide_eq_true_eq]

/-- Up to order, the tasks that are due are picked from the sleeping ones. -/
theorem due_perm (d : Debounce) :
    d.due.Perm (d.sleeping.filter fun s => s.validation.due ≤ d.now) :=
  List.mergeSort_perm _ _

/-- Everything due publishes: no task finds its entry taken. -/
theorem settle_eq {d : Debounce} (h : d.Linked) :
    d.settle
      = ({ d with
          sleeping := d.sleeping.filter fun s => d.now < s.validation.due
          pending := (d.due.map Sleeper.uri).foldl Table.erase d.pending
          parses := d.parses + d.due.countP fun s => s.validation.text ≠ [] },
        d.due.map fun s => outcome s.validation) := by
  rw [settle, wakeAll_eq]
  · rw [(d.due_perm.map Sleeper.uri).nodup_iff]
    exact h.uris.sublist (List.filter_sublist.map _)
  · intro s hs
    exact h.ticket_of_sleeping s (mem_due.mp hs).1

/-- What is left after everything due has woken up fits together. -/
theorem linked_settle {d : Debounce} (h : d.Linked) : d.settle.1.Linked := by
  rw [settle_eq h]
  refine h.keep _ rfl rfl ?_ ?_
  · intro uri
    simp only [Table.get?_foldl_erase]
    by_cases hu : uri ∈ d.due.map Sleeper.uri
    · exact Or.inr (if_pos hu)
    · exact Or.inl (if_neg hu)
  · intro s hs
    -- the entry of `s` is gone only if `s` itself was due
    have hdue : s.uri ∈ d.due.map Sleeper.uri ↔ s.validation.due ≤ d.now := by
      rw [List.mem_map]
      constructor
      · rintro ⟨r, hr, hrs⟩
        obtain ⟨hrd, hrn⟩ := mem_due.mp hr
        rw [← List.inj_on_of_nodup_map h.uris hrd hs hrs]
        exact hrn
      · intro hle
        exact ⟨s, mem_due.mpr ⟨hs, hle⟩, rfl⟩
    simp only [Table.get?_foldl_erase, hdue, h.ticket_of_sleeping s hs, decide_eq_true_eq]
    by_cases hle : s.validation.due ≤ d.now
    · simp [hle]
    · simp only [hle, if_false]
      simp
      omega

/-! ## Whole operations -/

section Steps

variable {d : Debounce}

/-- Every operation keeps entries and tasks together. -/
theorem linked_step (h : d.Linked) (op : DebounceOp) : (d.step op).state.Linked :=
  linked_settle (linked_act h op)

theorem now_step (h : d.Linked) (op : DebounceOp) :
    (d.step op).state.now = d.now + op.duration := by
  show (d.act op).settle.1.now = _
  rw [settle_eq (linked_act h op), now_act h op]

/-- After an operation every sleeping task is ahead of the clock. -/
theorem sleeping_step (h : d.Linked) (op : DebounceOp) :
    (d.step op).state.sleeping
      = (d.act op).sleeping.filter fun s => d.now + op.duration < s.validation.due := by
  show (d.act op).settle.1.sleeping = _
  rw [settle_eq (linked_act h op), now_act h op]

theorem published_step (h : d.Linked) (op : DebounceOp) :
    (d.step op).published = d.announce op ++ (d.act op).due.map fun s => outcome s.validation := by
  show d.announce op ++ (d.act op).settle.2 = _
  rw [settle_eq (linked_act h op)]

theorem parses_step (h : d.Linked) (op : DebounceOp) :
    (d.step op).state.parses
      = d.parses + (d.act op).due.countP fun s => s.validation.text ≠ [] := by
  show (d.act op).settle.1.parses = _
  rw [settle_eq (linked_act h op), parses_act h op]

end Steps

end Debounce

end LuServer
