/-
# One document among many

Documents are debounced independently: what waits for one document and what is
published for it depend only on the clock and on the operations for that
document.

* `waitingFor?`: the validation that waits for a document.
* `waitingFor?_act`: what an operation makes of it.
* `waitingFor?_step`, `published_for_step`: it goes on waiting, or it is published.
-/
import LuServer.Proofs.Debounce.Linked

namespace LuServer

namespace Debounce

/-- The validation that waits for a document: that of the task which the entry of the
document names. -/
def waitingFor? (d : Debounce) (uri : Uri) : Option Validation :=
  (d.pending.get? uri).bind fun ticket =>
    (d.sleeping.find? fun s => s.number = ticket.task).map Sleeper.validation

/-! ## The task of a document -/

/-- Among tasks of different documents, a task is the only one for its own. -/
theorem filter_uri_eq_singleton {ss : List Sleeper} (h : (ss.map Sleeper.uri).Nodup)
    {s : Sleeper} (hs : s ∈ ss) : ss.filter (fun r => r.uri = s.uri) = [s] := by
  induction ss with
  | nil => cases hs
  | cons a ss ih =>
    rw [List.map_cons, List.nodup_cons] at h
    rcases List.mem_cons.mp hs with rfl | hs
    · have hrest : ss.filter (fun r => r.uri = s.uri) = [] := by
        rw [List.filter_eq_nil_iff]
        intro r hr hrs
        exact h.1 (of_decide_eq_true hrs ▸ List.mem_map_of_mem hr)
      rw [List.filter_cons_of_pos (by simp), hrest]
    · have hne : a.uri ≠ s.uri := fun ha => h.1 (ha ▸ List.mem_map_of_mem hs)
      rw [List.filter_cons_of_neg (by simpa using hne), ih h.2 hs]

namespace Linked

variable {d : Debounce}

/-- What waits for a document is the validation of the task that sleeps for it. -/
theorem waitingFor?_of_mem (h : d.Linked) {s : Sleeper} (hs : s ∈ d.sleeping) :
    d.waitingFor? s.uri = some s.validation := by
  have hfind : d.sleeping.find? (fun r => r.number = s.number) = some s := by
    rw [← List.head?_filter]
    have hsame : d.sleeping.filter (fun r => r.number = s.number)
        = d.sleeping.filter fun r => r.uri = s.uri := by
      refine List.filter_congr ?_
      intro r hr
      rw [decide_eq_decide]
      exact h.number_eq_iff (h.ticket_of_sleeping s hs) hr
    rw [hsame, filter_uri_eq_singleton h.uris hs, List.head?_cons]
  rw [waitingFor?, h.ticket_of_sleeping s hs, Option.bind_some, hfind, Option.map_some]

/-- What waits for a document, as a list, is picked from the sleeping tasks. -/
theorem toList_waitingFor? (h : d.Linked) (uri : Uri) :
    (d.waitingFor? uri).toList
      = (d.sleeping.filter fun s => s.uri = uri).map Sleeper.validation := by
  by_cases hu : ∃ s ∈ d.sleeping, s.uri = uri
  · obtain ⟨s, hs, rfl⟩ := hu
    rw [h.waitingFor?_of_mem hs, filter_uri_eq_singleton h.uris hs, Option.toList_some,
      List.map_singleton]
  · have hnone : d.pending.get? uri = none := by
      cases ht : d.pending.get? uri with
      | none => rfl
      | some ticket => exact absurd (h.sleeping_of_ticket uri ticket ht) hu
    have hfilter : d.sleeping.filter (fun s => s.uri = uri) = [] := by
      rw [List.filter_eq_nil_iff]
      intro s hs hsu
      exact hu ⟨s, hs, of_decide_eq_true hsu⟩
    rw [waitingFor?, hnone, Option.bind_none, Option.toList_none, hfilter, List.map_nil]

/-- A document has an entry exactly if a validation waits for it. -/
theorem isPending_eq (h : d.Linked) (uri : Uri) :
    d.isPending uri = (d.waitingFor? uri).isSome := by
  rw [Bool.eq_iff_iff, h.isPending_iff]
  constructor
  · rintro ⟨s, hs, rfl⟩
    rw [h.waitingFor?_of_mem hs, Option.isSome_some]
  · intro hsome
    obtain ⟨v, hv⟩ := Option.isSome_iff_exists.mp hsome
    have hmem : v ∈ (d.waitingFor? uri).toList := by
      rw [hv]
      exact List.mem_singleton_self v
    rw [h.toList_waitingFor? uri] at hmem
    obtain ⟨s, hs, _⟩ := List.mem_map.mp hmem
    exact ⟨s, (List.mem_filter.mp hs).1, of_decide_eq_true (List.mem_filter.mp hs).2⟩

end Linked

/-- What waits for a document can be read off the tasks that sleep for it. -/
theorem waitingFor?_eq {d : Debounce} (h : d.Linked) {uri : Uri} {o : Option Validation}
    (ho : (d.sleeping.filter fun s => s.uri = uri).map Sleeper.validation = o.toList) :
    d.waitingFor? uri = o := by
  rw [← h.toList_waitingFor?] at ho
  have hhead := congrArg List.head? ho
  rwa [Option.head?_toList, Option.head?_toList] at hhead

/-! ## Operations -/

/-- The validation that an operation asks for, when it is issued at time `now`. -/
def asked? (now : Nat) : DebounceOp → Option Validation
  | .schedule uri text version delay culture => some ⟨uri, text, culture, version, now + delay⟩
  | _ => none

section Operations

variable {d : Debounce}

/-- An operation replaces what waits for the documents it concerns by what it asks
for. -/
theorem waitingFor?_act (h : d.Linked) (op : DebounceOp) (uri : Uri) :
    (d.act op).waitingFor? uri
      = if op.concerns uri = true then asked? d.now op else d.waitingFor? uri := by
  refine waitingFor?_eq (linked_act h op) ?_
  rw [sleeping_act h, List.filter_append, List.map_append, List.filter_filter]
  by_cases hop : op.concerns uri = true
  · have hold : d.sleeping.filter (fun s => decide (s.uri = uri) && !op.concerns s.uri) = [] := by
      rw [List.filter_eq_nil_iff]
      intro s _ hs
      simp only [Bool.and_eq_true, decide_eq_true_eq, Bool.not_eq_true'] at hs
      rw [hs.1, hop] at hs
      exact absurd hs.2 (by simp)
    rw [hold, if_pos hop]
    cases op with
    | schedule name text version delay culture =>
      obtain rfl : name = uri := of_decide_eq_true hop
      simp [newcomer, asked?]
    | cancel name => rfl
    | close name => rfl
    | ask name => cases hop
    | wait duration => cases hop
  · have hold : d.sleeping.filter (fun s => decide (s.uri = uri) && !op.concerns s.uri)
        = d.sleeping.filter fun s => s.uri = uri := by
      refine List.filter_congr ?_
      intro s _
      by_cases hs : s.uri = uri
      · simp [hs, hop]
      · simp [hs]
    have hnew : (d.newcomer op).filter (fun s => s.uri = uri) = [] := by
      cases op with
      | schedule name text version delay culture =>
        have hne : name ≠ uri := fun he => hop (decide_eq_true he)
        simp [newcomer, hne]
      | cancel name => rfl
      | close name => rfl
      | ask name => rfl
      | wait duration => rfl
    rw [hold, hnew, if_neg hop, List.map_nil, List.append_nil, h.toList_waitingFor?]

/-- After an operation a document goes on waiting if its time is still to come. -/
theorem waitingFor?_step (h : d.Linked) (op : DebounceOp) (uri : Uri) :
    (d.step op).state.waitingFor? uri
      = ((d.act op).waitingFor? uri).filter fun v => d.now + op.duration < v.due := by
  refine waitingFor?_eq (linked_step h op) ?_
  rw [sleeping_step h, Option.toList_filter, (linked_act h op).toList_waitingFor?,
    List.filter_map, List.filter_filter, List.filter_filter]
  congr 1
  refine List.filter_congr ?_
  intro s _
  exact Bool.and_comm _ _

/-- In an operation a document is cleared if it is closed, and published if its
time has come. -/
theorem published_for_step (h : d.Linked) (op : DebounceOp) (uri : Uri) :
    (d.step op).published.filter (fun p => p.uri = uri)
      = (d.announce op).filter (fun p => p.uri = uri)
        ++ ((((d.act op).waitingFor? uri).filter fun v =>
          v.due ≤ d.now + op.duration).map outcome).toList := by
  have hact := linked_act h op
  -- at most one task is due for the document, so the order does not matter
  have hdue : (((d.act op).due.filter fun s => s.uri = uri).map Sleeper.validation)
      = (((d.act op).waitingFor? uri).filter fun v => v.due ≤ d.now + op.duration).toList := by
    have hperm := ((due_perm (d.act op)).filter fun s => s.uri = uri).map Sleeper.validation
    have hlist : (((d.act op).sleeping.filter fun s => s.validation.due ≤ (d.act op).now).filter
          fun s => s.uri = uri).map Sleeper.validation
        = (((d.act op).waitingFor? uri).filter fun v => v.due ≤ d.now + op.duration).toList := by
      rw [Option.toList_filter, hact.toList_waitingFor?, List.filter_map, List.filter_filter,
        List.filter_filter, now_act h]
      congr 1
      refine List.filter_congr ?_
      intro s _
      exact Bool.and_comm _ _
    rw [hlist] at hperm
    cases ho : ((d.act op).waitingFor? uri).filter fun v => v.due ≤ d.now + op.duration with
    | none =>
      rw [ho] at hperm
      exact List.perm_nil.mp hperm
    | some v =>
      rw [ho] at hperm
      exact List.perm_singleton.mp hperm
  rw [published_step h, List.filter_append, List.filter_map, Option.toList_map, ← hdue,
    List.map_map]
  rfl

end Operations

end Debounce

end LuServer
