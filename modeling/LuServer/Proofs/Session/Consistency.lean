/-
# What the editor is told

The store of documents and the table of waiting validations are changed by
different hands.  This file shows that they always agree: what waits is the stored
version of its document, and where nothing waits the editor was last told what the
store says.

* `Session.Matches`, `Session.Reports`: agreement with the store.
* `Session.Consistent`: the invariant of sessions.
* `Session.consistent_operate`: one operation on the validations keeps it.
* `Session.diagnostics_follow_store`: it holds after every session.
-/
import LuServer.Proofs.Debounce.Document
import LuServer.Proofs.Session.Lifecycle

namespace LuServer

/-- The last publication for a document. -/
def lastFor? (ps : List Publication) (uri : Uri) : Option Publication :=
  (ps.filter fun p => p.uri = uri).getLast?

namespace Session

/-! ## Agreement with the store -/

/-- A validation is that of the stored document, under the settings of the
session. -/
def Matches (s : Session) (uri : Uri) (v : Validation) : Prop :=
  ∃ d, s.store.get? uri = some d ∧ v.text = d.text ∧ v.version = d.version ∧
    v.culture = s.settings.locale

/-- A publication says of a document what the store says: the diagnostics of its
text if it is open, and nothing if it is not. -/
def Reports (s : Session) (uri : Uri) (p : Publication) : Prop :=
  match s.store.get? uri with
  | some d => p.version = some d.version ∧
      p.diagnostics = (diagnose d.text s.settings.locale).value
  | none => p.version = none ∧ p.diagnostics = []

/-- What a validation of the stored document finds is what the store says. -/
theorem reports_outcome {s : Session} {uri : Uri} {v : Validation} (h : s.Matches uri v) :
    s.Reports uri (Debounce.outcome v) := by
  obtain ⟨d, hd, htext, hversion, hculture⟩ := h
  simp only [Reports, hd, Debounce.outcome, htext, hversion, hculture, and_self]

/-- The invariant of a session that has published `ps` and made the changes `es`. -/
structure Consistent (s : Session) (ps : List Publication) (es : List StoreOp) : Prop where
  linked : s.debounce.Linked
  matching : ∀ uri v, s.debounce.waitingFor? uri = some v → s.Matches uri v
  told : ∀ op ∈ es, s.debounce.waitingFor? op.uri = none →
    ∃ p, lastFor? ps op.uri = some p ∧ s.Reports op.uri p
  fresh : s.phase = .fresh → es = [] ∧ ∀ uri, s.debounce.waitingFor? uri = none

/-! ## One message -/

/-- An operation on the validations keeps the invariant, if what waits during it
matches the store and what is cleared or left alone by it has been told. -/
theorem consistent_operate {s t : Session} {ps : List Publication} {es : List StoreOp}
    (h : s.debounce.Linked) (op : DebounceOp)
    (hdebounce : t.debounce = (s.debounce.step op).state)
    (hmatch : ∀ uri v, (s.debounce.act op).waitingFor? uri = some v → t.Matches uri v)
    (htold : ∀ e ∈ es, (s.debounce.act op).waitingFor? e.uri = none →
      ∃ p, lastFor? (ps ++ s.debounce.announce op) e.uri = some p ∧ t.Reports e.uri p)
    (hfresh : t.phase = .fresh →
      es = [] ∧ ∀ uri, (s.debounce.act op).waitingFor? uri = none) :
    t.Consistent (ps ++ (s.debounce.step op).published) es where
  linked := by
    rw [hdebounce]
    exact Debounce.linked_step h op
  matching := by
    intro uri v hv
    rw [hdebounce, Debounce.waitingFor?_step h, Option.filter_eq_some_iff] at hv
    exact hmatch uri v hv.1
  told := by
    intro e he hnone
    rw [hdebounce, Debounce.waitingFor?_step h] at hnone
    have hpublished := Debounce.published_for_step h op e.uri
    cases hw : (s.debounce.act op).waitingFor? e.uri with
    | none =>
      obtain ⟨p, hp, hreports⟩ := htold e he hw
      refine ⟨p, ?_, hreports⟩
      rw [hw, Option.filter_none, Option.map_none, Option.toList_none, List.append_nil]
        at hpublished
      rw [lastFor?, List.filter_append, hpublished, ← List.filter_append]
      exact hp
    | some v =>
      -- it no longer waits, so it has just been published
      have hdue : v.due ≤ s.debounce.now + op.duration := by
        rw [hw, Option.filter_eq_none_iff] at hnone
        have hlate := hnone v rfl
        simp only [decide_eq_true_eq] at hlate
        omega
      refine ⟨Debounce.outcome v, ?_, reports_outcome (hmatch e.uri v hw)⟩
      rw [hw, Option.filter_some, if_pos (decide_eq_true hdue), Option.map_some,
        Option.toList_some] at hpublished
      rw [lastFor?, List.filter_append, hpublished, ← List.append_assoc, List.getLast?_concat]
  fresh := by
    intro hphase
    obtain ⟨hes, hnone⟩ := hfresh hphase
    refine ⟨hes, ?_⟩
    intro uri
    rw [hdebounce, Debounce.waitingFor?_step h, hnone, Option.filter_none]

/-- A change of a document concerns the validation of that document. -/
theorem concerns_validationOf (s : Session) (op : StoreOp) (uri : Uri) :
    (s.validationOf op).concerns uri = decide (op.uri = uri) := by
  cases op <;> rfl

/-- What a change asks for is a validation of the document that it leaves. -/
theorem document?_of_asked? {s : Session} {op : StoreOp} {now : Nat} {v : Validation}
    (hv : Debounce.asked? now (s.validationOf op) = some v) :
    ∃ d, op.document? = some d ∧ v.text = d.text ∧ v.version = d.version ∧
      v.culture = s.settings.locale := by
  cases op with
  | openDocument uri text version =>
    obtain rfl := Option.some.inj hv
    exact ⟨_, rfl, rfl, rfl, rfl⟩
  | update uri text version =>
    obtain rfl := Option.some.inj hv
    exact ⟨_, rfl, rfl, rfl, rfl⟩
  | close uri => cases hv

/-- A change that asks for no validation closes its document and clears it. -/
theorem cleared_of_asked? {s : Session} {op : StoreOp}
    (h : Debounce.asked? s.debounce.now (s.validationOf op) = none) :
    op.document? = none ∧
      s.debounce.announce (s.validationOf op) = [s.debounce.cleared op.uri] := by
  cases op with
  | openDocument uri text version => cases h
  | update uri text version => cases h
  | close uri => exact ⟨rfl, rfl⟩

/-- A change clears no other document. -/
theorem announce_of_ne (s : Session) {op : StoreOp} {uri : Uri} (hne : op.uri ≠ uri) :
    (s.debounce.announce (s.validationOf op)).filter (fun p => p.uri = uri) = [] := by
  cases op with
  | openDocument name text version => rfl
  | update name text version => rfl
  | close name =>
    have hname : name ≠ uri := hne
    simp [validationOf, Debounce.announce, Debounce.cleared, hname]

/-- A change of a document keeps the invariant. -/
theorem consistent_edit {s : Session} {ps : List Publication} {es : List StoreOp}
    (h : s.Consistent ps es) (hstore : s.store = Store.run .empty es)
    (hs : s.phase = .running) (op : StoreOp) :
    Consistent
      { s with
        store := s.store.apply op
        debounce := (s.debounce.step (s.validationOf op)).state }
      (ps ++ (s.debounce.step (s.validationOf op)).published) (es ++ [op]) := by
  -- store and validations change at the same place and stay as they are elsewhere
  have hget (uri : Uri) : (s.store.apply op).get? uri
      = if op.uri = uri then op.document? else s.store.get? uri := by
    rw [hstore]
    exact Store.get?_run_apply es op uri
  have hact (uri : Uri) : (s.debounce.act (s.validationOf op)).waitingFor? uri
      = if op.uri = uri then Debounce.asked? s.debounce.now (s.validationOf op)
        else s.debounce.waitingFor? uri := by
    rw [Debounce.waitingFor?_act h.linked, concerns_validationOf]
    simp only [decide_eq_true_eq]
  refine consistent_operate h.linked (s.validationOf op) rfl ?_ ?_ ?_
  · intro uri v hv
    rw [hact] at hv
    by_cases huri : op.uri = uri
    · rw [if_pos huri] at hv
      rw [Matches, hget, if_pos huri]
      exact document?_of_asked? hv
    · rw [if_neg huri] at hv
      rw [Matches, hget, if_neg huri]
      exact h.matching uri v hv
  · intro e he hnone
    rw [hact] at hnone
    by_cases huri : op.uri = e.uri
    · rw [if_pos huri] at hnone
      obtain ⟨hdocument, hannounce⟩ := cleared_of_asked? hnone
      refine ⟨s.debounce.cleared op.uri, ?_, ?_⟩
      · rw [lastFor?, hannounce, List.filter_append]
        simp [Debounce.cleared, huri]
      · rw [Reports, hget, if_pos huri, hdocument]
        exact ⟨rfl, rfl⟩
    · rw [if_neg huri] at hnone
      have hes : e ∈ es := by
        rcases List.mem_append.mp he with hes | hop
        · exact hes
        · exact absurd (congrArg StoreOp.uri (List.mem_singleton.mp hop)).symm huri
      obtain ⟨p, hp, hreports⟩ := h.told e hes hnone
      refine ⟨p, ?_, ?_⟩
      · rw [lastFor?, List.filter_append, announce_of_ne s huri, List.append_nil]
        exact hp
      · rw [Reports, hget, if_neg huri]
        exact hreports
  · intro hfresh
    rw [hs] at hfresh
    cases hfresh

/-- The passing of time keeps the invariant. -/
theorem consistent_wait {s : Session} {ps : List Publication} {es : List StoreOp}
    (h : s.Consistent ps es) (duration : Nat) :
    Consistent { s with debounce := (s.debounce.step (.wait duration)).state }
      (ps ++ (s.debounce.step (.wait duration)).published) es := by
  have hact (uri : Uri) : (s.debounce.act (.wait duration)).waitingFor? uri
      = s.debounce.waitingFor? uri := by
    rw [Debounce.waitingFor?_act h.linked]
    exact if_neg Bool.false_ne_true
  refine consistent_operate h.linked (.wait duration) rfl ?_ ?_ ?_
  · intro uri v hv
    rw [hact] at hv
    exact h.matching uri v hv
  · intro e he hnone
    rw [hact] at hnone
    have hannounce : s.debounce.announce (.wait duration) = [] := rfl
    rw [hannounce, List.append_nil]
    exact h.told e he hnone
  · intro hfresh
    refine ⟨(h.fresh hfresh).1, ?_⟩
    intro uri
    rw [hact]
    exact (h.fresh hfresh).2 uri

/-- A step that changes nothing keeps the invariant: only a fresh session takes on
settings, and nothing has been validated in it. -/
theorem consistent_idle {s : Session} {r : SessionStep} {ps : List Publication}
    {es : List StoreOp} (h : s.Consistent ps es) (hidle : s.Idle r)
    (hphase : r.state.phase = .fresh → s.phase = .fresh) :
    r.state.Consistent (ps ++ r.sent.filterMap Broadcast.publication?) es := by
  rw [hidle.silent, List.append_nil]
  refine ⟨?_, ?_, ?_, ?_⟩
  · rw [hidle.debounce]
    exact h.linked
  · intro uri v hv
    rw [hidle.debounce] at hv
    -- something waits, so the settings have been taken on before
    have hbegun : s.phase ≠ .fresh := by
      intro hfresh
      rw [(h.fresh hfresh).2 uri] at hv
      cases hv
    rw [Matches, hidle.store, hidle.settings hbegun]
    exact h.matching uri v hv
  · intro e he hnone
    rw [hidle.debounce] at hnone
    -- something was changed, so they have been taken on before
    have hbegun : s.phase ≠ .fresh := by
      intro hfresh
      rw [(h.fresh hfresh).1] at he
      cases he
    obtain ⟨p, hp, hreports⟩ := h.told e he hnone
    refine ⟨p, hp, ?_⟩
    rw [Reports, hidle.store, hidle.settings hbegun]
    exact hreports
  · intro hfresh
    rw [hidle.debounce]
    exact h.fresh (hphase hfresh)

/-- Every message keeps the invariant, unless the session has ended. -/
theorem consistent_step {tree : FileTree} {s : Session} {ps : List Publication}
    {es : List StoreOp} (h : s.Consistent ps es) (hstore : s.store = Store.run .empty es)
    (hs : s.phase ≠ .ended) (m : Message) :
    (s.step tree m).state.Consistent
      (ps ++ (s.step tree m).sent.filterMap Broadcast.publication?)
      (es ++ if s.phase = .running then m.edit?.toList else []) := by
  rcases step_cases tree s m with ⟨hrunning, op, hop⟩ | ⟨duration, rfl⟩ | ⟨hnone, hidle⟩
  · rw [step_edit hrunning hop, filterMap_publication?_map, if_pos hrunning, hop]
    exact consistent_edit h hstore hrunning op
  · have hnone : (Message.wait duration).edit? = none := rfl
    rw [step_wait, if_neg hs, filterMap_publication?_map, hnone, Option.toList_none, ite_self,
      List.append_nil]
    exact consistent_wait h duration
  · have hedits : (if s.phase = .running then m.edit?.toList else []) = [] := by
      split
      · rename_i hrunning
        rw [hnone hrunning, Option.toList_none]
      · rfl
    rw [hedits, List.append_nil]
    refine consistent_idle h hidle ?_
    intro hfresh
    rw [phase_step, Phase.next_eq_fresh_iff] at hfresh
    exact hfresh.1

/-! ## Whole sessions -/

/-- The invariant holds after every session. -/
theorem consistent_after (tree : FileTree) {ms : List Message}
    (hexit : Message.request .exit ∉ ms) :
    (after tree {} ms).Consistent (publications tree {} ms) (edits ms) := by
  induction ms using List.reverseRecOn with
  | nil =>
    refine ⟨Debounce.linked_empty, ?_, ?_, ?_⟩
    · intro uri v hv
      cases hv
    · intro op hop
      cases hop
    · intro _
      exact ⟨rfl, fun uri => rfl⟩
  | append_singleton ms m ih =>
    rw [List.mem_append, not_or] at hexit
    have hphase := phase_after tree {} ms
    have hs : (after tree {} ms).phase ≠ .ended := by
      rw [hphase]
      exact Phase.foldl_next_ne_ended hexit.1
    rw [after_append, after_singleton, publications_append, edits, editsFrom_append, ← edits,
      ← show (after tree {} ms).phase = ms.foldl Phase.next .fresh from hphase]
    exact consistent_step (ih hexit.1) (store_after tree ms) hs m

/-- **The editor is told what the store says.**  After every session that has not
ended: a validation waits for a document only if the document is open, and then it is
that of the stored version under the settings of the session.  If none waits for a
document that the session has changed, the last diagnostics for it are those of the
stored version, or an empty list if it is closed.  A change without any text changes
nothing. -/
theorem diagnostics_follow_store (tree : FileTree) (ms : List Message)
    (hexit : Message.request .exit ∉ ms) (uri : Uri) :
    ((after tree {} ms).debounce.isPending uri = true →
      ∃ v, (after tree {} ms).debounce.waitingFor? uri = some v ∧
        (after tree {} ms).Matches uri v) ∧
    ((∃ before m since op, ms = before ++ m :: since ∧ Serving before ∧
        m.edit? = some op ∧ op.uri = uri) →
      (after tree {} ms).debounce.isPending uri = false →
      ∃ p, lastFor? (publications tree {} ms) uri = some p ∧
        (after tree {} ms).Reports uri p) ∧
    ∀ version, (after tree {} ms).step tree (.notification (.changed uri version []))
      = { state := after tree {} ms } := by
  have h := consistent_after tree hexit
  refine ⟨?_, ?_, ?_⟩
  · intro hpending
    rw [h.linked.isPending_eq, Option.isSome_iff_exists] at hpending
    obtain ⟨v, hv⟩ := hpending
    exact ⟨v, hv, h.matching uri v hv⟩
  · rintro ⟨before, m, since, op, hms, hserving, hop, rfl⟩ hpending
    rw [h.linked.isPending_eq, Option.isSome_eq_false_iff, Option.isNone_iff_eq_none] at hpending
    exact h.told op ((mem_edits_iff ms op).mpr ⟨before, m, since, hms, hserving, hop⟩) hpending
  · exact step_changed_nil tree _ uri

/-- A faulty text is reported after the quiet time of the settings.  Changed into another one, it
waits again, and is reported again.  Closed instead, it has no diagnostics any more. -/
theorem diagnostics_follow_store_changed :
    let opened : List Message :=
      [.request (.setUp (some ([], none))), .notification (.opened "a" "- hello".toList 1),
        .wait 200]
    let changed := opened ++ [.notification (.changed "a" 2 [[], "# Greet\n- \x7bx".toList])]
    let settled := changed ++ [.wait 200]
    let closed := changed ++ [.notification (.closed "a")]
    (∀ ms ∈ [opened, changed, settled, closed], Message.request .exit ∉ ms) ∧
      (∃ p, lastFor? (publications {} {} opened) "a" = some p ∧
        (after {} {} opened).Reports "a" p ∧ p.version = some 1 ∧ p.diagnostics.length = 1) ∧
      (∃ v, (after {} {} changed).debounce.waitingFor? "a" = some v ∧
        (after {} {} changed).Matches "a" v ∧ v.version = 2) ∧
      (∃ p, lastFor? (publications {} {} settled) "a" = some p ∧
        (after {} {} settled).Reports "a" p ∧ p.version = some 2 ∧ p.diagnostics.length = 1) ∧
      ∃ p, lastFor? (publications {} {} closed) "a" = some p ∧
        (after {} {} closed).Reports "a" p ∧ p.version = none ∧ p.diagnostics = [] := by
  intro opened changed settled closed
  have hserving : Serving [.request (.setUp (some ([], none)))] :=
    ⟨[], _, [], rfl, rfl, by simp, by simp⟩
  -- the session as it goes on after the document was opened
  have hopened (since : List Message) :
      ∃ before m since' op, [.request (.setUp (some ([], none)))] ++
          .notification (.opened "a" "- hello".toList 1) :: since = before ++ m :: since' ∧
        Serving before ∧ m.edit? = some op ∧ op.uri = "a" :=
    ⟨_, _, since, _, rfl, hserving, rfl, rfl⟩
  refine ⟨by decide, ?opened, ?changed, ?settled, ?closed⟩
  case opened =>
    obtain ⟨p, hp, hreports⟩ := (diagnostics_follow_store {} opened (by decide) "a").2.1
      (hopened _) (by decide +kernel)
    have hsaid : (lastFor? (publications {} {} opened) "a").map
        (fun p => (p.version, p.diagnostics.length)) = some (some 1, 1) := by decide +kernel
    rw [hp] at hsaid
    exact ⟨p, hp, hreports, by simpa using hsaid⟩
  case changed =>
    obtain ⟨v, hv, hmatches⟩ :=
      (diagnostics_follow_store {} changed (by decide) "a").1 (by decide +kernel)
    have hwaits : ((after {} {} changed).debounce.waitingFor? "a").map (·.version) = some 2 := by
      decide +kernel
    rw [hv] at hwaits
    exact ⟨v, hv, hmatches, by simpa using hwaits⟩
  case settled =>
    obtain ⟨p, hp, hreports⟩ := (diagnostics_follow_store {} settled (by decide) "a").2.1
      (hopened _) (by decide +kernel)
    have hsaid : (lastFor? (publications {} {} settled) "a").map
        (fun p => (p.version, p.diagnostics.length)) = some (some 2, 1) := by decide +kernel
    rw [hp] at hsaid
    exact ⟨p, hp, hreports, by simpa using hsaid⟩
  case closed =>
    obtain ⟨p, hp, hreports⟩ := (diagnostics_follow_store {} closed (by decide) "a").2.1
      (hopened _) (by decide +kernel)
    have hsaid : (lastFor? (publications {} {} closed) "a").map
        (fun p => (p.version, p.diagnostics)) = some (none, []) := by decide +kernel
    rw [hp] at hsaid
    exact ⟨p, hp, hreports, by simpa using hsaid⟩

end Session

end LuServer
