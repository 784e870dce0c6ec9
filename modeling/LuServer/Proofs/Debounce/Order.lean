/-
# The order of messages

A message is sent off in one step and arrives in another, and nothing makes two messages
arrive in the order in which they are sent.  The table of waiting validations keeps a task
from publishing once another call has come, but it cannot call back what is under way.  This
file shows that nothing else can go wrong: a result that arrives too late was under way
already when its document was changed or closed.

* `Tasks.mem_results_of_concerns`: a call publishes before the next operation on its document
  or not at all.
* `Tasks.exists_origin`: where a message comes from.
* `Tasks.InOrder`: results arrive in the order of their calls, and none of an earlier call
  arrives after the empty list of a close.
* `Tasks.underway_of_overtaken`: what is out of order was under way.
* `Tasks.inOrder_of_prompt`: if messages arrive before the next operation on their document,
  they are in order.
* `Tasks.not_inOrder_call`, `Tasks.not_inOrder_close`: otherwise they need not be.
-/
import LuServer.Proofs.Debounce.Guard

namespace LuServer

namespace Tasks

variable {s : Tasks}

/-! ## Messages stay -/

theorem mem_messages_step {m : Delivery} (hm : m ∈ s.messages) (a : TaskStep) :
    m ∈ (s.step a).messages := by
  refine step_induction (motive := fun r => m ∈ r.messages) hm ?_ ?_ ?_ a
  · intro op heeded
    rw [messages, act, ← List.append_assoc]
    exact List.mem_append_left _ hm
  · intro t _
    rw [messages, wake, ← List.append_assoc]
    exact List.mem_append_left _ hm
  · intro place
    exact (messages_deliver_perm s place).mem_iff.mpr hm

theorem mem_messages_run {m : Delivery} (hm : m ∈ s.messages) (steps : List TaskStep) :
    m ∈ (s.run steps).messages := by
  induction steps generalizing s with
  | nil => exact hm
  | cons a as ih => exact ih (mem_messages_step hm a)

/-- What has arrived stays, and the rest arrives after it. -/
theorem delivered_run (s : Tasks) (steps : List TaskStep) :
    ∃ more, (s.run steps).delivered = s.delivered ++ more := by
  induction steps generalizing s with
  | nil => exact ⟨[], (List.append_nil _).symm⟩
  | cons a as ih =>
    obtain ⟨more, hmore⟩ := ih (s.step a)
    have hstep : ∃ first, (s.step a).delivered = s.delivered ++ first := by
      refine step_induction (motive := fun r => ∃ first, r.delivered = s.delivered ++ first)
        ⟨[], (List.append_nil _).symm⟩ ?_ ?_ ?_ a
      · intro op heeded
        exact ⟨[], (List.append_nil _).symm⟩
      · intro t _
        exact ⟨[], (List.append_nil _).symm⟩
      · intro place
        exact ⟨_, rfl⟩
    obtain ⟨first, hfirst⟩ := hstep
    exact ⟨first ++ more, by rw [run_cons, hmore, hfirst, List.append_assoc]⟩

/-! ## Where messages come from -/

/-- A past task that has not published is spent. -/
theorem spent_of_past (h : s.Tracked) {t : Sleeper} (ht : t ∈ s.past)
    (hno : ∀ m ∈ s.results, m.call ≠ t.number) : s.Spent t.number where
  made := h.number_lt (List.mem_append_right _ ht)
  no_entry := by
    intro uri ticket hticket
    obtain ⟨r, hr, -, rfl⟩ := h.owner uri ticket hticket
    exact h.ne_of_past hr ht
  no_result := hno

/-- A call publishes before the next operation on its document or not at all. -/
theorem mem_results_of_concerns (h : s.Tracked) {op : DebounceOp} {heeded : Bool}
    {after : List TaskStep} (hfew : ((s.act op heeded).run after).calls ≤ 2 ^ 64)
    {m : Delivery} (hm : m ∈ ((s.act op heeded).run after).results)
    (hop : op.concerns m.uri = true) (hcall : m.call < s.calls) : m ∈ s.results := by
  have hact : (s.act op heeded).Tracked := tracked_act h
  have hend : ((s.act op heeded).run after).Tracked := tracked_run hact after
  obtain ⟨t, ht, hnumber⟩ : ∃ t ∈ s.tasks, t.number = m.call := by
    have hmem := h.numbers.mem_iff.mpr (List.mem_range.mpr hcall)
    exact List.mem_map.mp hmem
  -- the task that sent the message is the one that the call started
  have huri : m.uri = t.uri := by
    obtain ⟨r, hr, hsent, hpublication⟩ := hend.sender m hm
    have htasks : t ∈ ((s.act op heeded).run after).tasks :=
      mem_tasks_run hact after ((mem_tasks_step h (.act op heeded)).mpr (Or.inl ht))
    have heq : r = t :=
      hend.eq_of_number (List.mem_append_right _ hr) htasks (hsent.trans hnumber.symm)
    rw [Delivery.uri, hpublication, heq]
    rfl
  rcases List.mem_append.mp ht with hsleeping | hpast
  · have hspent : (s.act op heeded).Spent t.number :=
      spent_of_concerns h hsleeping (huri ▸ hop)
    exact absurd hnumber.symm ((spent_run hact after hfew hspent).no_result m hm)
  · by_contra hnot
    have hno : ∀ r ∈ s.results, r.call ≠ t.number := by
      intro r hr heq
      have hrend : r ∈ ((s.act op heeded).run after).results := by
        rw [results, List.mem_filter] at hr ⊢
        exact ⟨mem_messages_run (mem_messages_step hr.1 (.act op heeded)) after, hr.2⟩
      rw [List.inj_on_of_nodup_map hend.once hrend hm (heq.trans hnumber)] at hr
      exact hnot hr
    have hspent := spent_run hact after hfew (spent_act (spent_of_past h hpast hno))
    exact hspent.no_result m hm hnumber.symm

/-- Whether a message is due to an operation: to a close, whose empty list it is, or to a
call, whose task has found it. -/
def Answers (s : Tasks) (op : DebounceOp) (m : Delivery) : Prop :=
  m.call = s.calls ∧ (m.publication ∈ s.debounce.announce op ∨
    ∃ t ∈ s.debounce.newcomer op, m.publication = Debounce.outcome t.validation)

theorem concerns_of_answers {op : DebounceOp} {m : Delivery} (h : s.Answers op m) :
    op.concerns m.uri = true := by
  rcases h.2 with hannounce | ⟨t, hnew, hpublication⟩
  · cases op with
    | close uri =>
      rw [Delivery.uri, List.mem_singleton.mp hannounce]
      exact decide_eq_true rfl
    | schedule => cases hannounce
    | cancel => cases hannounce
    | ask => cases hannounce
    | wait => cases hannounce
  · rw [Delivery.uri, hpublication]
    exact ((Debounce.mem_newcomer hnew).2.2 _).mpr rfl

/-- A message that a step adds is the result of a task, or it is sent by an operation. -/
theorem answers_of_mem_step {a : TaskStep} {m : Delivery} (hm : m ∈ (s.step a).messages)
    (hresult : m.isResult = false) (hnew : m ∉ s.messages) :
    ∃ op heeded, a = .act op heeded ∧ s.Answers op m := by
  cases a with
  | act op heeded =>
    rw [step, messages, act, ← List.append_assoc] at hm
    rcases List.mem_append.mp hm with hold | hsent
    · exact absurd hold hnew
    · obtain ⟨p, hp, rfl⟩ := List.mem_map.mp hsent
      exact ⟨op, heeded, rfl, rfl, Or.inl hp⟩
  | wake number =>
    simp only [step] at hm
    split at hm
    · rename_i t _
      rw [messages, wake, ← List.append_assoc] at hm
      rcases List.mem_append.mp hm with hold | hsent
      · exact absurd hold hnew
      · rcases s.debounce.wake_cases t with ⟨ticket, -, -, hwake⟩ | ⟨-, hwake⟩
        · rw [hwake, List.map_singleton, List.mem_singleton] at hsent
          rw [hsent] at hresult
          cases hresult
        · rw [hwake] at hsent
          cases hsent
    · exact absurd hm hnew
  | deliver place =>
    exact absurd ((messages_deliver_perm s place).mem_iff.mp hm) hnew

/-- Every message is due to an operation, and was not there before it. -/
theorem exists_origin {steps : List TaskStep} {m : Delivery}
    (hm : m ∈ (run {} steps).messages) :
    ∃ before op heeded after, steps = before ++ .act op heeded :: after ∧
      (run {} before).Answers op m ∧ m ∉ (run {} before).messages := by
  cases hresult : m.isResult with
  | false =>
    induction steps using List.reverseRecOn with
    | nil => cases hm
    | append_singleton steps a ih =>
      by_cases hold : m ∈ (run {} steps).messages
      · obtain ⟨before, op, heeded, after, rfl, horigin⟩ := ih hold
        exact ⟨before, op, heeded, after ++ [a], by simp, horigin⟩
      · rw [run_append] at hm
        obtain ⟨op, heeded, rfl, hanswers⟩ := answers_of_mem_step hm hresult hold
        exact ⟨steps, op, heeded, [], rfl, hanswers, hold⟩
  | true =>
    have h := tracked_run tracked_empty steps
    obtain ⟨t, ht, hnumber, hpublication⟩ :=
      h.sender m (List.mem_filter.mpr ⟨hm, hresult⟩)
    obtain ⟨before, op, heeded, after, hsteps, hnew⟩ :=
      exists_call (List.mem_append_right _ ht)
    have hcall : m.call = (run {} before).calls := by
      rw [← hnumber, (Debounce.mem_newcomer hnew).1]
    refine ⟨before, op, heeded, after, hsteps, ⟨hcall, Or.inr ⟨t, hnew, hpublication⟩⟩, ?_⟩
    intro hearly
    have hbefore := tracked_run tracked_empty before
    obtain ⟨r, hr, hsame, -⟩ := hbefore.sender m (List.mem_filter.mpr ⟨hearly, hresult⟩)
    have hlt := hbefore.number_lt (List.mem_append_right _ hr)
    omega

/-! ## Order -/

/-- Of the messages about a document, no result comes after one that is due to a later
operation. -/
def InOrder (ms : List Delivery) : Prop :=
  ms.Pairwise fun a b => b.isResult = true → a.uri = b.uri → a.call ≤ b.call

instance (ms : List Delivery) : Decidable (InOrder ms) :=
  inferInstanceAs (Decidable (ms.Pairwise _))

/-- A result that comes after a message due to a later operation was under way already at that
operation. -/
theorem underway_of_overtaken {steps : List TaskStep}
    (hfew : steps.countP TaskStep.isCall < 2 ^ 64) {earlier later : List Delivery}
    (hdelivered : (run {} steps).delivered = earlier ++ later) {a b : Delivery}
    (ha : a ∈ earlier) (hb : b ∈ later) (hresult : b.isResult = true) (huri : a.uri = b.uri)
    (hcall : b.call < a.call) :
    ∃ before op heeded after, steps = before ++ .act op heeded :: after ∧
      (run {} before).Answers op a ∧ b ∈ (run {} before).underway := by
  have h := tracked_run tracked_empty steps
  have hmessages : ∀ m ∈ earlier ++ later, m ∈ (run {} steps).messages := by
    intro m hm
    exact List.mem_append_left _ (hdelivered ▸ hm)
  obtain ⟨before, op, heeded, after, rfl, hanswers, hfresh⟩ :=
    exists_origin (hmessages a (List.mem_append_left _ ha))
  refine ⟨before, op, heeded, after, rfl, hanswers, ?_⟩
  have hbefore : b ∈ (run {} before).results := by
    have hbresult := List.mem_filter.mpr ⟨hmessages b (List.mem_append_right _ hb), hresult⟩
    have hop := concerns_of_answers hanswers
    rw [huri] at hop
    rw [← calls_run_empty] at hfew
    rw [run_append, run_cons] at hfew hbresult
    refine mem_results_of_concerns (tracked_run tracked_empty before) (Nat.le_of_lt hfew)
      hbresult hop ?_
    rw [← hanswers.1]
    exact hcall
  rcases List.mem_append.mp (List.mem_filter.mp hbefore).1 with harrived | hunderway
  swap
  · exact hunderway
  -- had `b` arrived by then, it would be there twice
  exfalso
  obtain ⟨more, hmore⟩ := delivered_run (run {} before) (.act op heeded :: after)
  rw [← run_append, hdelivered] at hmore
  rcases List.append_eq_append_iff.mp hmore with ⟨rest, harrivals, -⟩ | ⟨rest, hearlier, -⟩
  · have hmem : a ∈ (run {} before).delivered := harrivals ▸ List.mem_append_left _ ha
    exact hfresh (List.mem_append_left _ hmem)
  · have hearly : b ∈ earlier := hearlier ▸ List.mem_append_left _ harrived
    have honce := List.Nodup.of_map _ h.once
    rw [results, messages, hdelivered, List.filter_append, List.filter_append] at honce
    exact (List.nodup_append.mp (List.nodup_append.mp honce).1).2.2 b
      (List.mem_filter.mpr ⟨hearly, hresult⟩) b (List.mem_filter.mpr ⟨hb, hresult⟩) rfl

/-- Whether no operation finds a result for its document under way. -/
def Prompt (s : Tasks) : List TaskStep → Prop
  | [] => True
  | a :: as =>
    (∀ op heeded, a = .act op heeded →
      ∀ m ∈ s.underway, m.isResult = true → op.concerns m.uri = false) ∧ (s.step a).Prompt as

theorem prompt_append {as bs : List TaskStep} :
    s.Prompt (as ++ bs) ↔ s.Prompt as ∧ (s.run as).Prompt bs := by
  induction as generalizing s with
  | nil => simp [Prompt]
  | cons a as ih => rw [List.cons_append, Prompt, Prompt, ih, run_cons, and_assoc]

/-- If results arrive before the next operation on their document, they are in order. -/
theorem inOrder_of_prompt {steps : List TaskStep}
    (hfew : steps.countP TaskStep.isCall < 2 ^ 64) (hprompt : Prompt {} steps) :
    InOrder (run {} steps).delivered := by
  refine List.pairwise_iff_forall_sublist.mpr ?_
  intro a b hpair hresult huri
  by_contra hcall
  obtain ⟨earlier, later, hdelivered, ha, hlater⟩ := List.cons_sublist_iff.mp hpair
  have hb : b ∈ later := List.singleton_sublist.mp hlater
  obtain ⟨before, op, heeded, after, hsteps, hanswers, hunderway⟩ :=
    underway_of_overtaken hfew hdelivered ha hb hresult huri (by omega)
  have hop := concerns_of_answers hanswers
  rw [hsteps, prompt_append] at hprompt
  rw [huri, hprompt.2.1 op heeded rfl b hunderway hresult] at hop
  cases hop

/-- The result of a call may arrive after that of a later one. -/
theorem not_inOrder_call :
    ¬ InOrder (run {} [.act (.schedule "a" ['@'] 1 0 []) true, .wake 0,
      .act (.schedule "a" [] 2 0 []) true, .wake 1, .deliver 1, .deliver 0]).delivered := by
  decide +kernel

/-- The result of a call may arrive after the document has been closed and cleared. -/
theorem not_inOrder_close :
    ¬ InOrder (run {} [.act (.schedule "a" ['@'] 1 0 []) true, .wake 0,
      .act (.close "a") true, .deliver 1, .deliver 0]).delivered := by
  decide +kernel

end Tasks

end LuServer
