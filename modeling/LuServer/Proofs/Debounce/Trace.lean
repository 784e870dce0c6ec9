/-
# What a run publishes

The publications of a run, the answers to its questions and the texts that it
reads are all determined by its operations, as `Call.Fires` and `Call.Waits` say.
The proofs go through one more operation at a time: the validations of the
sleeping tasks are those of the calls that wait.

* `sleeping_after`: the tasks that sleep after a run.
* `versioned_perm`: each call that fires is published once, and nothing else is.
* `cleared_eq`: each close is published once.
* `run_trace`: all of it together.
-/
import LuServer.Proofs.Debounce.Call
import Mathlib.Data.List.Induction

namespace LuServer

namespace Debounce

/-! ## Runs -/

/-- The state after some operations. -/
def after (d : Debounce) (ops : List DebounceOp) : Debounce :=
  ops.foldl (fun d op => (d.step op).state) d

/-- Everything that a run from the start publishes, in order. -/
def published (ops : List DebounceOp) : List Publication :=
  (run {} ops).flatMap DebounceStep.published

theorem after_append (d : Debounce) (ops : List DebounceOp) (op : DebounceOp) :
    d.after (ops ++ [op]) = ((d.after ops).step op).state := by
  rw [after, after, List.foldl_append, List.foldl_cons, List.foldl_nil]

theorem run_append (d : Debounce) (ops : List DebounceOp) (op : DebounceOp) :
    d.run (ops ++ [op]) = d.run ops ++ [(d.after ops).step op] := by
  induction ops generalizing d with
  | nil => rfl
  | cons first ops ih => rw [List.cons_append, run, run, ih, List.cons_append]; rfl

theorem published_append (ops : List DebounceOp) (op : DebounceOp) :
    published (ops ++ [op]) = published ops ++ ((after {} ops).step op).published := by
  rw [published, run_append, List.flatMap_append, List.flatMap_singleton, published]

/-- The step at a place of a run starts where the operations before it end. -/
theorem getElem?_run (d : Debounce) (ops : List DebounceOp) (k : Nat) :
    (d.run ops)[k]? = ops[k]?.map fun op => (d.after (ops.take k)).step op := by
  induction ops generalizing d k with
  | nil => simp [run]
  | cons op ops ih =>
    cases k with
    | zero => rfl
    | succ k => simp only [run, List.getElem?_cons_succ, ih, List.take_succ_cons]; rfl

/-- Entries and tasks fit together after every run. -/
theorem linked_after (ops : List DebounceOp) : (after {} ops).Linked := by
  induction ops using List.reverseRecOn with
  | nil => exact linked_empty
  | append_singleton ops op ih =>
    rw [after_append]
    exact linked_step ih op

theorem now_after (ops : List DebounceOp) : (after {} ops).now = elapsed ops := by
  induction ops using List.reverseRecOn with
  | nil => rfl
  | append_singleton ops op ih =>
    rw [after_append, now_step (linked_after ops), ih, elapsed_append, elapsed_singleton]

/-! ## The sleeping tasks -/

/-- Lists with the same images keep the same images when they are filtered by
them. -/
theorem map_filter_of_map_eq {α β γ : Type} {f : α → γ} {g : β → γ} {as : List α} {bs : List β}
    (h : as.map f = bs.map g) (p : γ → Bool) :
    (as.filter fun a => p (f a)).map f = (bs.filter fun b => p (g b)).map g := by
  have ha : (as.map f).filter p = (as.filter fun a => p (f a)).map f := List.filter_map
  have hb : (bs.map g).filter p = (bs.filter fun b => p (g b)).map g := List.filter_map
  rw [← ha, ← hb, h]

/-- A task that an operation starts carries the validation of its call. -/
theorem newcomer_after (ops : List DebounceOp) (op : DebounceOp) :
    ((after {} ops).newcomer op).map Sleeper.validation
      = (lastCall ops op).map Call.validation := by
  cases op with
  | schedule uri text version delay culture =>
    simp only [newcomer, lastCall, List.map_cons, List.map_nil, now_after]
  | cancel uri => rfl
  | close uri => rfl
  | ask uri => rfl
  | wait duration => rfl

/-- What sleeps while an operation is carried out, if before it the sleeping tasks
are those of the calls that wait. -/
theorem sleeping_act_after {ops : List DebounceOp} (op : DebounceOp)
    (h : (after {} ops).sleeping.map Sleeper.validation
      = ((calls ops).filter fun c => c.Waits ops).map Call.validation) :
    ((after {} ops).act op).sleeping.map Sleeper.validation
      = (alive ops op).map Call.validation := by
  have hkept := map_filter_of_map_eq h fun v => !op.concerns v.uri
  rw [List.filter_filter] at hkept
  have halive : (calls ops).filter (fun c => !op.concerns c.validation.uri && c.Waits ops)
      = (calls ops).filter fun c => c.Waits ops ∧ op.concerns c.validation.uri = false := by
    refine List.filter_congr ?_
    intro c _
    rw [Bool.decide_and, Bool.and_comm]
    simp
  rw [sleeping_act (linked_after ops), List.map_append, hkept, halive, newcomer_after,
    ← List.map_append, alive]

/-- The tasks that sleep after a run are those of the calls that wait. -/
theorem sleeping_after (ops : List DebounceOp) :
    (after {} ops).sleeping.map Sleeper.validation
      = ((calls ops).filter fun c => c.Waits ops).map Call.validation := by
  induction ops using List.reverseRecOn with
  | nil => rfl
  | append_singleton ops op ih =>
    rw [after_append, sleeping_step (linked_after ops), filter_waits_append, now_after]
    exact map_filter_of_map_eq (sleeping_act_after op ih)
      fun v => elapsed ops + op.duration < v.due

/-- The validations that are due at the end of an operation are those of the
calls that are still to be published and whose time has come. -/
theorem due_act_after (ops : List DebounceOp) (op : DebounceOp) :
    (((after {} ops).act op).due.map Sleeper.validation).Perm
      (((alive ops op).filter fun c =>
        c.validation.due ≤ elapsed ops + op.duration).map Call.validation) := by
  refine ((due_perm _).map Sleeper.validation).trans (List.Perm.of_eq ?_)
  rw [now_act (linked_after ops), now_after]
  exact map_filter_of_map_eq (sleeping_act_after op (sleeping_after ops))
    fun v => v.due ≤ elapsed ops + op.duration

/-! ## Publications -/

/-- Of what an operation publishes, the validations have a version. -/
theorem versioned_step {d : Debounce} (h : d.Linked) (op : DebounceOp) :
    (d.step op).published.filter (fun p => p.version.isSome)
      = (d.act op).due.map fun s => outcome s.validation := by
  rw [published_step h, List.filter_append]
  have hannounce : (d.announce op).filter (fun p => p.version.isSome) = [] := by
    cases op <;> rfl
  rw [hannounce, List.nil_append, List.filter_eq_self]
  intro p hp
  obtain ⟨s, _, rfl⟩ := List.mem_map.mp hp
  rfl

/-- Of what an operation publishes, only the list that clears a closed document has
no version. -/
theorem cleared_step {d : Debounce} (h : d.Linked) (op : DebounceOp) :
    (d.step op).published.filter (fun p => p.version.isNone) = d.announce op := by
  rw [published_step h, List.filter_append]
  have hdue : ((d.act op).due.map fun s => outcome s.validation).filter
      (fun p => p.version.isNone) = [] := by
    rw [List.filter_eq_nil_iff]
    intro p hp
    obtain ⟨s, _, rfl⟩ := List.mem_map.mp hp
    simp [outcome]
  rw [hdue, List.append_nil]
  cases op <;> rfl

/-- Each call that fires is published once, and nothing else has a version. -/
theorem versioned_perm (ops : List DebounceOp) :
    ((published ops).filter fun p => p.version.isSome).Perm
      (((calls ops).filter fun c => c.Fires ops).map fun c => outcome c.validation) := by
  induction ops using List.reverseRecOn with
  | nil => exact List.Perm.refl _
  | append_singleton ops op ih =>
    rw [published_append, List.filter_append, versioned_step (linked_after ops)]
    refine List.Perm.trans ?_ ((filter_fires_append ops op).map _).symm
    rw [List.map_append]
    refine ih.append ?_
    have hdue := (due_act_after ops op).map outcome
    rwa [List.map_map, List.map_map] at hdue

/-- A call that fires reads its text, unless that is empty; nothing else is read. -/
theorem parses_after (ops : List DebounceOp) :
    (after {} ops).parses
      = ((calls ops).filter fun c => c.Fires ops).countP fun c => c.validation.text ≠ [] := by
  induction ops using List.reverseRecOn with
  | nil => rfl
  | append_singleton ops op ih =>
    have hdue := (due_act_after ops op).countP_eq fun v => v.text ≠ []
    rw [List.countP_map, List.countP_map] at hdue
    rw [after_append, parses_step (linked_after ops), ih, (filter_fires_append ops op).countP_eq,
      List.countP_append]
    exact congrArg _ hdue

/-- What the close at a place publishes. -/
def closingAt? (ops : List DebounceOp) (i : Nat) : Option Publication :=
  match ops[i]? with
  | some (.close uri) => some ⟨clockAt ops i, uri, none, []⟩
  | _ => none

/-- The empty lists of all closes of a run, each at its time. -/
def closings (ops : List DebounceOp) : List Publication :=
  (List.range ops.length).filterMap (closingAt? ops)

theorem closings_append (ops : List DebounceOp) (op : DebounceOp) :
    closings (ops ++ [op]) = closings ops ++ (after {} ops).announce op := by
  have hold : ∀ i < ops.length, closingAt? (ops ++ [op]) i = closingAt? ops i := by
    intro i hi
    rw [closingAt?, closingAt?, List.getElem?_append_left hi,
      clockAt_append _ _ (Nat.le_of_lt hi)]
  have hnew : (closingAt? (ops ++ [op]) ops.length).toList = (after {} ops).announce op := by
    rw [closingAt?, List.getElem?_concat_length, clockAt_append _ _ (Nat.le_refl _),
      clockAt_length, ← now_after]
    cases op <;> rfl
  rw [closings, filterMap_range_append _ _ _ hold, hnew, closings]

/-- Each close is published once, as an empty list without a version. -/
theorem cleared_eq (ops : List DebounceOp) :
    (published ops).filter (fun p => p.version.isNone) = closings ops := by
  induction ops using List.reverseRecOn with
  | nil => rfl
  | append_singleton ops op ih =>
    rw [published_append, List.filter_append, cleared_step (linked_after ops), ih,
      closings_append]

/-- What sleeps after a run is ahead of the clock. -/
theorem lt_due_after {ops : List DebounceOp} {s : Sleeper}
    (hs : s ∈ (after {} ops).sleeping) : elapsed ops < s.validation.due := by
  have hv : s.validation ∈ (after {} ops).sleeping.map Sleeper.validation :=
    List.mem_map_of_mem hs
  rw [sleeping_after] at hv
  obtain ⟨c, hc, hcv⟩ := List.mem_map.mp hv
  rw [← hcv]
  exact (of_decide_eq_true (List.mem_filter.mp hc).2).2

/-- What an operation publishes carries a time that the clock passes in it. -/
theorem time_step {ops : List DebounceOp} {op : DebounceOp} {p : Publication}
    (hp : p ∈ ((after {} ops).step op).published) :
    elapsed ops ≤ p.time ∧ p.time ≤ elapsed ops + op.duration := by
  rw [published_step (linked_after ops), List.mem_append] at hp
  rcases hp with hp | hp
  · cases op with
    | close uri =>
      obtain rfl := List.mem_singleton.mp hp
      simp [cleared, now_after]
    | _ => cases hp
  · obtain ⟨s, hs, rfl⟩ := List.mem_map.mp hp
    obtain ⟨hsleeping, hdue⟩ := mem_due.mp hs
    rw [now_act (linked_after ops), now_after] at hdue
    refine ⟨?_, hdue⟩
    -- what slept before is ahead of the clock, and what starts now is not behind it
    rw [sleeping_act (linked_after ops), List.mem_append, List.mem_filter] at hsleeping
    rcases hsleeping with ⟨hold, _⟩ | hnew
    · exact Nat.le_of_lt (lt_due_after hold)
    · cases op with
      | schedule uri text version delay culture =>
        obtain rfl := List.mem_singleton.mp hnew
        simp [outcome, now_after]
      | _ => cases hnew

/-! ## Questions -/

/-- The last call for a document has neither fired nor been cancelled or closed. -/
def Outstanding (ops : List DebounceOp) (uri : Uri) : Prop :=
  ∃ i text version delay culture,
    ops[i]? = some (.schedule uri text version delay culture) ∧
      (∀ j op, i < j → ops[j]? = some op → op.concerns uri = false) ∧
      elapsed ops < clockAt ops i + delay

/-- A call waits exactly if no later operation concerns its document and its
time is yet to come. -/
theorem waits_iff {ops : List DebounceOp} {c : Call} :
    c.Waits ops ↔ (∀ j op, c.place < j → ops[j]? = some op →
      op.concerns c.validation.uri = false) ∧ elapsed ops < c.validation.due := by
  rw [Call.Waits, Call.leftAlone_iff]
  refine and_congr_left ?_
  intro hlt
  refine forall_congr' fun j => forall_congr' fun op => forall_congr' fun _ =>
    forall_congr' fun _ => ?_
  have hle := clockAt_le_elapsed ops j
  rw [← Bool.not_eq_true]
  constructor
  · intro h hconcerns
    have := h hconcerns
    omega
  · intro h hconcerns
    exact absurd hconcerns h

/-- A document waits after a run exactly if its last call is outstanding. -/
theorem isPending_after (ops : List DebounceOp) (uri : Uri) :
    (after {} ops).isPending uri = true ↔ Outstanding ops uri := by
  have hwaits : (after {} ops).isPending uri = true
      ↔ ∃ c ∈ calls ops, c.Waits ops ∧ c.validation.uri = uri := by
    calc (after {} ops).isPending uri = true
        ↔ ∃ v ∈ (after {} ops).sleeping.map Sleeper.validation, v.uri = uri := by
          rw [(linked_after ops).isPending_iff]
          simp
      _ ↔ ∃ c ∈ calls ops, c.Waits ops ∧ c.validation.uri = uri := by
          rw [sleeping_after]
          simp [and_assoc]
  rw [hwaits, exists_mem_calls]
  constructor
  · rintro ⟨i, name, text, version, delay, culture, hop, hw, rfl⟩
    exact ⟨i, text, version, delay, culture, hop, waits_iff.mp hw⟩
  · rintro ⟨i, text, version, delay, culture, hop, hw⟩
    exact ⟨i, uri, text, version, delay, culture, hop, waits_iff.mpr hw, rfl⟩

/-! ## Whole runs -/

/-- A publication with a version is that of a call that fires. -/
theorem mem_published_iff (ops : List DebounceOp) (uri : Uri) (time : Nat) (version : Int)
    (diagnostics : List Diagnostic) :
    (⟨time, uri, some version, diagnostics⟩ : Publication) ∈ published ops ↔
      ∃ i text delay culture,
        ops[i]? = some (.schedule uri text version delay culture) ∧
        time = clockAt ops i + delay ∧ time ≤ elapsed ops ∧
        diagnostics = (diagnose text culture).value ∧
        ∀ j op, i < j → ops[j]? = some op → op.concerns uri = true → time ≤ clockAt ops j := by
  have hfires : (⟨time, uri, some version, diagnostics⟩ : Publication) ∈ published ops
      ↔ ∃ c ∈ calls ops, c.Fires ops ∧ outcome c.validation
        = ⟨time, uri, some version, diagnostics⟩ := by
    calc (⟨time, uri, some version, diagnostics⟩ : Publication) ∈ published ops
        ↔ (⟨time, uri, some version, diagnostics⟩ : Publication)
          ∈ (published ops).filter fun p => p.version.isSome := by
          simp [List.mem_filter]
      _ ↔ _ := by
          rw [(versioned_perm ops).mem_iff]
          simp [and_assoc]
  rw [hfires, exists_mem_calls]
  constructor
  · rintro ⟨i, name, text, v, delay, culture, hop, ⟨halone, hdue⟩, hp⟩
    simp only [outcome, Publication.mk.injEq, Option.some.injEq] at hp
    obtain ⟨rfl, rfl, rfl, rfl⟩ := hp
    exact ⟨i, text, delay, culture, hop, rfl, hdue, rfl, Call.leftAlone_iff.mp halone⟩
  · rintro ⟨i, text, delay, culture, hop, rfl, hdue, rfl, halone⟩
    exact ⟨i, uri, text, version, delay, culture, hop,
      ⟨Call.leftAlone_iff.mpr halone, hdue⟩, rfl⟩

/-- What a run from the start does, said in terms of its operations alone. -/
structure Trace (ops : List DebounceOp) : Prop where
  /-- Diagnostics with a version are published exactly for a call whose time the clock
  reaches before another operation for the document is issued. -/
  versioned : ∀ uri time version diagnostics,
    (⟨time, uri, some version, diagnostics⟩ : Publication) ∈ published ops ↔
      ∃ i text delay culture,
        ops[i]? = some (.schedule uri text version delay culture) ∧
        time = clockAt ops i + delay ∧ time ≤ elapsed ops ∧
        diagnostics = (diagnose text culture).value ∧
        ∀ j op, i < j → ops[j]? = some op → op.concerns uri = true → time ≤ clockAt ops j
  /-- Each such call is published once, and no other call ever is. -/
  once : ((published ops).filter fun p => p.version.isSome).Perm
    (((calls ops).filter fun c => c.Fires ops).map fun c => outcome c.validation)
  /-- Diagnostics without a version are one empty list for each close, at its time. -/
  cleared : (published ops).filter (fun p => p.version.isNone) = closings ops
  /-- What is published in a step has a time that the clock passes in that step. -/
  timely : ∀ k step, (run {} ops)[k]? = some step →
    ∀ p ∈ step.published, clockAt ops k ≤ p.time ∧ p.time ≤ clockAt ops (k + 1)
  /-- A question or a cancellation is answered by whether the last call for the document
  is outstanding. -/
  answers : ∀ k uri, ops[k]? = some (.ask uri) ∨ ops[k]? = some (.cancel uri) →
    ∃ step answer, (run {} ops)[k]? = some step ∧ step.answer = some answer ∧
      (answer = true ↔ Outstanding (ops.take k) uri)
  /-- So far as many texts have been read as validations of texts that are not empty have
  been published. -/
  parses : ∀ k step, (run {} ops)[k]? = some step →
    step.state.parses = ((calls (ops.take (k + 1))).filter fun c =>
      c.Fires (ops.take (k + 1))).countP fun c => c.validation.text ≠ []

/-- The step at a place of a run, with the operations up to it. -/
theorem step_of_getElem?_run {ops : List DebounceOp} {k : Nat} {step : DebounceStep}
    (h : (run {} ops)[k]? = some step) :
    ∃ op, ops[k]? = some op ∧ ops.take (k + 1) = ops.take k ++ [op] ∧
      step = (after {} (ops.take k)).step op := by
  rw [getElem?_run, Option.map_eq_some_iff] at h
  obtain ⟨op, hop, rfl⟩ := h
  refine ⟨op, hop, ?_, rfl⟩
  rw [List.take_add_one, hop, Option.toList_some]

/-- **Debounced runs.**  Every run publishes, answers and reads as its operations
say. -/
theorem run_trace (ops : List DebounceOp) : Trace ops where
  versioned := mem_published_iff ops
  once := versioned_perm ops
  cleared := cleared_eq ops
  timely := by
    intro k step hstep p hp
    obtain ⟨op, _, htake, rfl⟩ := step_of_getElem?_run hstep
    rw [clockAt, clockAt, htake, elapsed_append, elapsed_singleton]
    exact time_step hp
  answers := by
    intro k uri hop
    have hanswer : ∀ d : Debounce, ∀ op, op = .ask uri ∨ op = .cancel uri →
        (d.step op).answer = some (d.isPending uri) := by
      rintro d op (rfl | rfl) <;> rfl
    have hsome : ∃ op, ops[k]? = some op ∧ (op = .ask uri ∨ op = .cancel uri) := by
      rcases hop with hop | hop
      · exact ⟨_, hop, Or.inl rfl⟩
      · exact ⟨_, hop, Or.inr rfl⟩
    obtain ⟨op, hget, hkind⟩ := hsome
    refine ⟨(after {} (ops.take k)).step op, (after {} (ops.take k)).isPending uri, ?_,
      hanswer _ op hkind, isPending_after _ uri⟩
    rw [getElem?_run, hget, Option.map_some]
  parses := by
    intro k step hstep
    obtain ⟨op, _, htake, rfl⟩ := step_of_getElem?_run hstep
    rw [htake, ← parses_after, after_append]

end Debounce

end LuServer
