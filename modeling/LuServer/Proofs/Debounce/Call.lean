/-
# Calls within a run

A run of operations asks for validations at some of its places.  Which of them
are published can be read off the operations alone: a validation is published if
the clock reaches its time and no operation for its document comes in between.

* `elapsed`, `clockAt`: the clock after a run, and at one of its places.
* `calls`: the validations that a run asks for, each with its place.
* `Call.LeftAlone`: no operation for the document comes before the validation is
  due.
* `Call.Fires`, `Call.Waits`: it is left alone, and its time has come or not.
-/
import LuServer.Proofs.Debounce.Linked

namespace LuServer

namespace Debounce

/-! ## The clock -/

/-- The clock after some operations. -/
def elapsed : List DebounceOp → Nat
  | [] => 0
  | op :: ops => op.duration + elapsed ops

/-- The clock when the operation at place `i` is issued. -/
def clockAt (ops : List DebounceOp) (i : Nat) : Nat :=
  elapsed (ops.take i)

@[simp] theorem elapsed_append (ops more : List DebounceOp) :
    elapsed (ops ++ more) = elapsed ops + elapsed more := by
  induction ops with
  | nil => simp [elapsed]
  | cons op ops ih =>
    rw [List.cons_append, elapsed, elapsed, ih]
    omega

@[simp] theorem elapsed_singleton (op : DebounceOp) : elapsed [op] = op.duration := by
  simp [elapsed]

/-- The clock at a place does not depend on what comes later. -/
theorem clockAt_append (ops more : List DebounceOp) {i : Nat} (hi : i ≤ ops.length) :
    clockAt (ops ++ more) i = clockAt ops i := by
  rw [clockAt, clockAt, List.take_append_of_le_length hi]

theorem clockAt_length (ops : List DebounceOp) : clockAt ops ops.length = elapsed ops := by
  rw [clockAt, List.take_length]

/-- The clock never goes back. -/
theorem clockAt_le_elapsed (ops : List DebounceOp) (i : Nat) : clockAt ops i ≤ elapsed ops := by
  conv_rhs => rw [← List.take_append_drop i ops, elapsed_append]
  exact Nat.le_add_right _ _

/-! ## The calls of a run -/

/-- A validation that a run asks for, and the place of the operation that asks. -/
structure Call where
  place : Nat
  validation : Validation
deriving DecidableEq, Repr

/-- The call at a place, if the operation there is one. -/
def callAt? (ops : List DebounceOp) (i : Nat) : Option Call :=
  match ops[i]? with
  | some (.schedule uri text version delay culture) =>
    some ⟨i, ⟨uri, text, culture, version, clockAt ops i + delay⟩⟩
  | _ => none

/-- All calls of a run, in order. -/
def calls (ops : List DebounceOp) : List Call :=
  (List.range ops.length).filterMap (callAt? ops)

theorem callAt?_eq_some {ops : List DebounceOp} {i : Nat} {c : Call} :
    callAt? ops i = some c ↔ ∃ uri text version delay culture,
      ops[i]? = some (.schedule uri text version delay culture) ∧
        c = ⟨i, ⟨uri, text, culture, version, clockAt ops i + delay⟩⟩ := by
  rw [callAt?]
  constructor
  · intro h
    split at h
    · rename_i uri text version delay culture hop
      injection h with h
      exact ⟨uri, text, version, delay, culture, hop, h.symm⟩
    · cases h
  · rintro ⟨uri, text, version, delay, culture, hop, rfl⟩
    rw [hop]

/-- The place of a call lies within the run. -/
theorem place_lt {ops : List DebounceOp} {c : Call} (hc : c ∈ calls ops) :
    c.place < ops.length := by
  obtain ⟨i, hi, hci⟩ := List.mem_filterMap.mp hc
  obtain ⟨_, _, _, _, _, _, rfl⟩ := callAt?_eq_some.mp hci
  exact List.mem_range.mp hi

/-- The calls of a run are its operations of that kind. -/
theorem exists_mem_calls {ops : List DebounceOp} {P : Call → Prop} :
    (∃ c ∈ calls ops, P c) ↔ ∃ i uri text version delay culture,
      ops[i]? = some (.schedule uri text version delay culture) ∧
        P ⟨i, ⟨uri, text, culture, version, clockAt ops i + delay⟩⟩ := by
  constructor
  · rintro ⟨c, hc, hP⟩
    obtain ⟨i, _, hci⟩ := List.mem_filterMap.mp hc
    obtain ⟨uri, text, version, delay, culture, hop, rfl⟩ := callAt?_eq_some.mp hci
    exact ⟨i, uri, text, version, delay, culture, hop, hP⟩
  · rintro ⟨i, uri, text, version, delay, culture, hop, hP⟩
    have hcall := callAt?_eq_some.mpr ⟨uri, text, version, delay, culture, hop, rfl⟩
    have hlt := (List.getElem?_eq_some_iff.mp hop).1
    exact ⟨_, List.mem_filterMap.mpr ⟨i, List.mem_range.mpr hlt, hcall⟩, hP⟩

/-- What is picked from the places of a run does not depend on what comes later, so
one more operation only adds what its own place gives. -/
theorem filterMap_range_append {α : Type} (f : List DebounceOp → Nat → Option α)
    (ops : List DebounceOp) (op : DebounceOp)
    (hf : ∀ i < ops.length, f (ops ++ [op]) i = f ops i) :
    (List.range (ops ++ [op]).length).filterMap (f (ops ++ [op]))
      = (List.range ops.length).filterMap (f ops) ++ (f (ops ++ [op]) ops.length).toList := by
  have hold : (List.range ops.length).filterMap (f (ops ++ [op]))
      = (List.range ops.length).filterMap (f ops) := by
    refine List.filterMap_congr ?_
    intro i hi
    exact hf i (List.mem_range.mp hi)
  rw [List.length_append, List.length_singleton, List.range_succ, List.filterMap_append, hold,
    List.filterMap_cons, List.filterMap_nil]
  cases f (ops ++ [op]) ops.length <;> rfl

/-- What an operation after `ops` asks for. -/
def lastCall (ops : List DebounceOp) : DebounceOp → List Call
  | .schedule uri text version delay culture =>
    [⟨ops.length, ⟨uri, text, culture, version, elapsed ops + delay⟩⟩]
  | _ => []

/-- One more operation brings at most one more call. -/
theorem calls_append (ops : List DebounceOp) (op : DebounceOp) :
    calls (ops ++ [op]) = calls ops ++ lastCall ops op := by
  have hold : ∀ i < ops.length, callAt? (ops ++ [op]) i = callAt? ops i := by
    intro i hi
    rw [callAt?, callAt?, List.getElem?_append_left hi, clockAt_append _ _ (Nat.le_of_lt hi)]
  have hnew : (callAt? (ops ++ [op]) ops.length).toList = lastCall ops op := by
    rw [callAt?, List.getElem?_concat_length, clockAt_append _ _ (Nat.le_refl _), clockAt_length]
    cases op <;> rfl
  rw [calls, filterMap_range_append _ _ _ hold, hnew, calls]

/-! ## Left alone, fired, waiting -/

namespace Call

/-- No operation for the document of a call is issued between the call and the
time of its validation. -/
def LeftAlone (ops : List DebounceOp) (c : Call) : Prop :=
  ∀ j < ops.length, c.place < j → ops[j]?.any (·.concerns c.validation.uri) = true →
    c.validation.due ≤ clockAt ops j

instance (ops : List DebounceOp) (c : Call) : Decidable (c.LeftAlone ops) :=
  inferInstanceAs (Decidable (∀ j < ops.length, _))

/-- The clock has reached a validation that was left alone. -/
def Fires (ops : List DebounceOp) (c : Call) : Prop :=
  c.LeftAlone ops ∧ c.validation.due ≤ elapsed ops

instance (ops : List DebounceOp) (c : Call) : Decidable (c.Fires ops) :=
  inferInstanceAs (Decidable (_ ∧ _))

/-- A validation is left alone, and its time is yet to come. -/
def Waits (ops : List DebounceOp) (c : Call) : Prop :=
  c.LeftAlone ops ∧ elapsed ops < c.validation.due

instance (ops : List DebounceOp) (c : Call) : Decidable (c.Waits ops) :=
  inferInstanceAs (Decidable (_ ∧ _))

theorem leftAlone_iff {ops : List DebounceOp} {c : Call} :
    c.LeftAlone ops ↔ ∀ j op, c.place < j → ops[j]? = some op →
      op.concerns c.validation.uri = true → c.validation.due ≤ clockAt ops j := by
  constructor
  · intro h j op hj hop hconcerns
    refine h j (List.getElem?_eq_some_iff.mp hop).1 hj ?_
    rw [hop]
    exact hconcerns
  · intro h j hlt hj hany
    rw [List.getElem?_eq_getElem hlt] at hany
    exact h j _ hj (List.getElem?_eq_getElem hlt) hany

/-- The last operation of a run disturbs what it concerns, unless that is due
by then. -/
theorem leftAlone_append {ops : List DebounceOp} {op : DebounceOp} {c : Call}
    (hc : c.place < ops.length) :
    c.LeftAlone (ops ++ [op]) ↔ c.LeftAlone ops ∧
      (op.concerns c.validation.uri = true → c.validation.due ≤ elapsed ops) := by
  simp only [leftAlone_iff]
  constructor
  · intro h
    constructor
    · intro j o hj ho hconcerns
      have hlt := (List.getElem?_eq_some_iff.mp ho).1
      have := h j o hj (by rw [List.getElem?_append_left hlt, ho]) hconcerns
      rwa [clockAt_append _ _ (Nat.le_of_lt hlt)] at this
    · intro hconcerns
      have := h ops.length op hc List.getElem?_concat_length hconcerns
      rwa [clockAt_append _ _ (Nat.le_refl _), clockAt_length] at this
  · rintro ⟨h, hlast⟩ j o hj ho hconcerns
    have hlt := (List.getElem?_eq_some_iff.mp ho).1
    rw [List.length_append, List.length_singleton] at hlt
    -- the place `j` is one of the old ones, or the last
    rcases Nat.lt_succ_iff_lt_or_eq.mp hlt with hlt | rfl
    · rw [List.getElem?_append_left hlt] at ho
      rw [clockAt_append _ _ (Nat.le_of_lt hlt)]
      exact h j o hj ho hconcerns
    · rw [List.getElem?_concat_length, Option.some.injEq] at ho
      subst ho
      rw [clockAt_append _ _ (Nat.le_refl _), clockAt_length]
      exact hlast hconcerns

/-- A call at the very end is left alone. -/
theorem leftAlone_last {ops : List DebounceOp} {op : DebounceOp} {c : Call}
    (hc : c ∈ lastCall ops op) : c.LeftAlone (ops ++ [op]) := by
  have hplace : c.place = ops.length := by
    cases op <;> simp_all [lastCall]
  intro j hlt hj
  rw [List.length_append, List.length_singleton] at hlt
  omega

/-- After one more operation a validation waits if it waited before, the operation
does not concern it, and its time is still to come. -/
theorem waits_append {ops : List DebounceOp} {op : DebounceOp} {c : Call}
    (hc : c.place < ops.length) :
    c.Waits (ops ++ [op]) ↔ (c.Waits ops ∧ op.concerns c.validation.uri = false) ∧
      elapsed ops + op.duration < c.validation.due := by
  rw [Waits, Waits, leftAlone_append hc, elapsed_append, elapsed_singleton]
  cases op.concerns c.validation.uri <;> constructor <;> grind

/-- After one more operation a validation has been published if it was before,
or if it waited, the operation does not concern it, and its time has come. -/
theorem fires_append {ops : List DebounceOp} {op : DebounceOp} {c : Call}
    (hc : c.place < ops.length) :
    c.Fires (ops ++ [op]) ↔ c.Fires ops ∨
      ((c.Waits ops ∧ op.concerns c.validation.uri = false) ∧
        c.validation.due ≤ elapsed ops + op.duration) := by
  rw [Waits, Fires, Fires, leftAlone_append hc, elapsed_append, elapsed_singleton]
  cases op.concerns c.validation.uri <;> constructor <;> grind

/-- What has been published waits no longer. -/
theorem not_waits_of_fires {ops : List DebounceOp} {c : Call} (h : c.Fires ops) :
    ¬ c.Waits ops := by
  intro hw
  exact absurd h.2 (Nat.not_le_of_lt hw.2)

end Call

/-! ## One more operation -/

/-- The calls that are still to be published once an operation after `ops` has been
issued. -/
def alive (ops : List DebounceOp) (op : DebounceOp) : List Call :=
  (calls ops).filter (fun c => c.Waits ops ∧ op.concerns c.validation.uri = false)
    ++ lastCall ops op

/-- The validations that wait after one more operation are those still to be
published whose time has not come. -/
theorem filter_waits_append (ops : List DebounceOp) (op : DebounceOp) :
    (calls (ops ++ [op])).filter (fun c => c.Waits (ops ++ [op]))
      = (alive ops op).filter fun c => elapsed ops + op.duration < c.validation.due := by
  rw [calls_append, alive, List.filter_append, List.filter_append, List.filter_filter]
  congr 1
  · refine List.filter_congr ?_
    intro c hc
    rw [decide_eq_decide.mpr (Call.waits_append (place_lt hc)), Bool.decide_and, Bool.and_comm]
  · refine List.filter_congr ?_
    intro c hc
    rw [decide_eq_decide, Call.Waits, elapsed_append, elapsed_singleton]
    exact and_iff_right (Call.leftAlone_last hc)

/-- The validations that have been published after one more operation are the
earlier ones, and those still to be published whose time has come. -/
theorem filter_fires_append (ops : List DebounceOp) (op : DebounceOp) :
    ((calls (ops ++ [op])).filter fun c => c.Fires (ops ++ [op])).Perm
      ((calls ops).filter (fun c => c.Fires ops)
        ++ (alive ops op).filter fun c => c.validation.due ≤ elapsed ops + op.duration) := by
  rw [calls_append, alive, List.filter_append, List.filter_append, List.filter_filter,
    ← List.append_assoc]
  refine List.Perm.append ?_ (List.Perm.of_eq ?_)
  · -- split what fires now by whether it had fired before
    refine (List.filter_append_perm (fun c => decide (c.Fires ops)) _).symm.trans ?_
    rw [List.filter_filter, List.filter_filter]
    refine List.Perm.of_eq ?_
    congr 1
    · refine List.filter_congr ?_
      intro c hc
      rw [← Bool.decide_and, decide_eq_decide, Call.fires_append (place_lt hc)]
      exact and_iff_left_of_imp Or.inl
    · refine List.filter_congr ?_
      intro c hc
      rw [← decide_not, ← Bool.decide_and, ← Bool.decide_and, decide_eq_decide,
        Call.fires_append (place_lt hc)]
      constructor
      · rintro ⟨hnot, hfires | hnew⟩
        · exact absurd hfires hnot
        · exact ⟨hnew.2, hnew.1⟩
      · rintro ⟨hdue, hwaits⟩
        exact ⟨fun hfires => Call.not_waits_of_fires hfires hwaits.1, Or.inr ⟨hwaits, hdue⟩⟩
  · refine List.filter_congr ?_
    intro c hc
    rw [decide_eq_decide, Call.Fires, elapsed_append, elapsed_singleton]
    exact and_iff_right (Call.leftAlone_last hc)

end Debounce

end LuServer
