/-
# Questions

A question is answered from the last version of its document, as if the document had
just been opened with it, and leaves no trace: neither the documents nor the
validations nor what is published can tell how many questions were asked.

* `Message.asks`: whether a message is a question.
* `Session.Answers`: the answer that a document by itself gives.
* `Session.Alike`: sessions that differ only in how much they read for their answers.
* `Session.agree_step`, `Session.alike_ask`: messages keep sessions alike.
* `Session.questions_leave_no_trace`: the result for whole sessions.
-/
import LuServer.Proofs.Session.Lifecycle

namespace LuServer

/-- Whether a message is a question, understood or not. -/
def Message.asks : Message → Bool
  | .request (.ask _) => true
  | _ => false

namespace Session

/-! ## The answer -/

/-- A step answers a question as the document `d` by itself does, under the culture of
the session. -/
def Answers (r : SessionStep) (d : Document) (culture : Text) (now : Nat) : Question → Prop
  | .complete _ p =>
    r.reply = some (.items (complete d.text p culture).value) ∧ r.sent = []
  | .format _ p typed =>
    r.reply = some (.edits (continueBlock d p typed)) ∧ r.sent = []
  | .unlabel _ number =>
    r.reply = some .nothing ∧
      r.sent = ((unlabelledCopies? d.text number).map (Broadcast.unlabelled now)).toList

/-- A running server answers a question from its store. -/
theorem step_ask {tree : FileTree} {s : Session} (hs : s.phase = .running) (q : Question) :
    s.step tree (.request (.ask (some q)))
      = { state := { s with answerParses := s.answerParses + (s.answer q).1.parses }
          reply := some (s.answer q).1.value
          sent := (s.answer q).2 } := by
  simp [step, request, whenRunning, ask, hs]

/-- About a document that is not open there is no answer. -/
theorem nothing_of_get?_eq_none {tree : FileTree} {s : Session} (hs : s.phase = .running)
    {q : Question} (hd : s.store.get? (subject q) = none) :
    (s.step tree (.request (.ask (some q)))).reply = some .nothing ∧
      (s.step tree (.request (.ask (some q)))).sent = [] := by
  rw [step_ask hs, answer, hd]
  exact ⟨rfl, rfl⟩

/-- About an open document the answer is that of the document. -/
theorem answers_of_get?_eq_some {tree : FileTree} {s : Session} (hs : s.phase = .running)
    {q : Question} {d : Document} (hd : s.store.get? (subject q) = some d) :
    Answers (s.step tree (.request (.ask (some q)))) d s.settings.locale s.debounce.now q := by
  rw [step_ask hs, answer, hd]
  cases q with
  | complete uri p => exact ⟨rfl, rfl⟩
  | format uri p typed => exact ⟨rfl, rfl⟩
  | unlabel uri number => exact ⟨rfl, rfl⟩

/-! ## Sessions that are alike -/

/-- The session without its count of what was read for answers. -/
def forget (s : Session) : Session :=
  { s with answerParses := 0 }

/-- Two sessions differ only in how much they read for their answers. -/
def Alike (s t : Session) : Prop :=
  s.forget = t.forget

theorem Alike.store {s t : Session} (h : s.Alike t) : s.store = t.store := by
  have hstore := congrArg Session.store h
  exact hstore

theorem Alike.debounce {s t : Session} (h : s.Alike t) : s.debounce = t.debounce := by
  have hdebounce := congrArg Session.debounce h
  exact hdebounce

/-- Two steps lead to sessions that are alike, and send the same. -/
structure Agree (a b : SessionStep) : Prop where
  state : a.state.Alike b.state
  sent : a.sent = b.sent

theorem agree_ite {p : Prop} [Decidable p] {a b c d : SessionStep} (hab : Agree a b)
    (hcd : Agree c d) : Agree (if p then a else c) (if p then b else d) := by
  by_cases hp : p
  · rw [if_pos hp, if_pos hp]
    exact hab
  · rw [if_neg hp, if_neg hp]
    exact hcd

/-- What was read for answers has no influence on a request. -/
theorem agree_request (tree : FileTree) (s : Session) (r : Request) :
    Agree (s.forget.request tree r) (s.request tree r) := by
  have hrefuse (reason : Refusal) : Agree (s.forget.refuse reason) (s.refuse reason) :=
    ⟨rfl, rfl⟩
  have hrunning {a b : SessionStep} (h : Agree a b) :
      Agree (s.forget.whenRunning a) (s.whenRunning b) := agree_ite h (hrefuse _)
  refine agree_ite ⟨rfl, rfl⟩ ?_
  cases r with
  | setUp workspace =>
    refine agree_ite ?_ (hrefuse _)
    cases workspace with
    | none => exact hrefuse _
    | some w => exact ⟨rfl, rfl⟩
  | shutdown understood => exact hrunning ⟨rfl, rfl⟩
  | ask question =>
    cases question with
    | none => exact hrunning (hrefuse _)
    | some q => exact hrunning ⟨rfl, rfl⟩
  | unsupported understood => exact hrunning (hrefuse _)
  | notice => exact hrunning (hrefuse _)
  | cancellation => exact hrefuse _
  | exit => exact ⟨rfl, rfl⟩
  | optional => exact ⟨rfl, rfl⟩
  | unknown => exact hrefuse _

/-- Nor has it any on a notification. -/
theorem agree_notify (tree : FileTree) (s : Session) (n : Notification) :
    Agree (s.forget.step tree (.notification n)) (s.step tree (.notification n)) := by
  suffices h : (s.forget.notify n).1.Alike (s.notify n).1 ∧
      (s.forget.notify n).2 = (s.notify n).2 from ⟨h.1, h.2⟩
  unfold notify
  by_cases hs : s.phase = .running
  · rw [if_pos hs, if_pos (show s.forget.phase = .running from hs)]
    cases n with
    | initialized => exact ⟨rfl, rfl⟩
    | opened uri text version => exact ⟨rfl, rfl⟩
    | changed uri version texts =>
      dsimp only
      cases texts.getLast? with
      | none => exact ⟨rfl, rfl⟩
      | some text => exact ⟨rfl, rfl⟩
    | closed uri => exact ⟨rfl, rfl⟩
  · rw [if_neg hs, if_neg (show ¬s.forget.phase = .running from hs)]
    exact ⟨rfl, rfl⟩

/-- Sessions that are alike stay so, and send the same. -/
theorem agree_step (tree : FileTree) {s t : Session} (h : s.Alike t) (m : Message) :
    Agree (s.step tree m) (t.step tree m) := by
  have hforget (s : Session) : Agree (s.forget.step tree m) (s.step tree m) := by
    cases m with
    | request r => exact agree_request tree s r
    | notification n => exact agree_notify tree s n
    | wait duration => exact ⟨rfl, rfl⟩
  have hs := hforget s
  have ht := hforget t
  rw [h] at hs
  exact ⟨hs.state.symm.trans ht.state, hs.sent.symm.trans ht.sent⟩

/-- A question leaves a session alike and publishes nothing. -/
theorem alike_ask (tree : FileTree) (s : Session) {m : Message} (hm : m.asks = true) :
    (s.step tree m).state.Alike s ∧
      (s.step tree m).sent.filterMap Broadcast.publication? = [] := by
  match m, hm with
  | .request (.ask q), _ =>
    refine ⟨?_, (idle_request tree s (.ask q)).silent⟩
    rw [step, request, Alike]
    split
    · rfl
    · unfold whenRunning
      split
      · cases q <;> rfl
      · rfl

/-! ## Whole sessions -/

/-- Sessions stay alike, and publish the same, if one of them is not asked the
questions. -/
theorem alike_after (tree : FileTree) {s t : Session} (h : s.Alike t) (ms : List Message) :
    (s.after tree ms).Alike (t.after tree (ms.filter fun m => !m.asks)) ∧
      s.publications tree ms = t.publications tree (ms.filter fun m => !m.asks) := by
  induction ms generalizing s t with
  | nil => exact ⟨h, rfl⟩
  | cons m ms ih =>
    by_cases hm : m.asks = true
    · -- only one of the two is asked, and stays as it was
      obtain ⟨halike, hsilent⟩ := alike_ask tree s hm
      rw [List.filter_cons_of_neg (by simp [hm]), publications_cons, hsilent, List.nil_append]
      exact ih (halike.trans h)
    · obtain ⟨halike, hsent⟩ := agree_step tree h m
      obtain ⟨hafter, hpublications⟩ := ih halike
      rw [List.filter_cons_of_pos (by simp [hm]), publications_cons, publications_cons, hsent,
        hpublications]
      exact ⟨hafter, rfl⟩

/-- **Questions are answered from the last version and leave no trace.**  In a session
that serves, a question about a document that is not open has no answer and sends
nothing.  Otherwise the answer is that of a fresh document with the text of the last
change, under the settings of the workspace.  Two sessions that differ only in their
questions have the same documents, the same waiting validations and the same
publications. -/
theorem questions_leave_no_trace (tree : FileTree) :
    (∀ (before : List Message) (folders : List Url) (root : Option Url) (since : List Message),
      (∀ b ∈ before, b.begins = false ∧ b ≠ .request .exit) → (∀ b ∈ since, b.ends = false) →
      ∀ (q : Question) (ms : List Message) (r : SessionStep),
      ms = before ++ .request (.setUp (some (folders, root))) :: since →
      r = (after tree {} ms).step tree (.request (.ask (some q))) →
      ((Store.lastChange? (edits ms) (subject q) = none ∨
          Store.lastChange? (edits ms) (subject q) = some (.close (subject q))) →
        r.reply = some .nothing ∧ r.sent = []) ∧
      (∀ text version,
        (Store.lastChange? (edits ms) (subject q)
            = some (.openDocument (subject q) text version) ∨
          Store.lastChange? (edits ms) (subject q)
            = some (.update (subject q) text version)) →
        Answers r (.ofText text version) (settingsFor tree folders root).locale
          (after tree {} ms).debounce.now q)) ∧
    (∀ ms ms' : List Message,
      (ms.filter fun m => !m.asks) = (ms'.filter fun m => !m.asks) →
      (after tree {} ms).store = (after tree {} ms').store ∧
      (after tree {} ms).debounce = (after tree {} ms').debounce ∧
      publications tree {} ms = publications tree {} ms') := by
  constructor
  · rintro before folders root since hbefore hsince q ms r hms rfl
    have hserving : Serving ms := ⟨before, _, since, hms, rfl, hbefore, hsince⟩
    have hs := phase_of_serving tree hserving
    have hstore := store_after tree ms
    constructor
    · intro hclosed
      refine nothing_of_get?_eq_none hs ?_
      rw [hstore]
      exact (Store.get?_run_eq_none_iff (edits ms) (subject q)).mpr hclosed
    · intro text version hopen
      have hsettings : (after tree {} ms).settings = settingsFor tree folders root := by
        rw [hms]
        exact settings_after tree hbefore folders root since
      rw [← hsettings]
      refine answers_of_get?_eq_some hs ?_
      rw [hstore, Store.get?_run]
      rcases hopen with hopen | hopen
      · rw [hopen]
        rfl
      · rw [hopen]
        rfl
  · intro ms ms' hfilter
    obtain ⟨halike, hpublications⟩ := alike_after tree (show Alike {} {} from rfl) ms
    obtain ⟨halike', hpublications'⟩ := alike_after tree (show Alike {} {} from rfl) ms'
    rw [hfilter] at halike hpublications
    have hboth : (after tree {} ms).Alike (after tree {} ms') := halike.trans halike'.symm
    exact ⟨hboth.store, hboth.debounce, hpublications.trans hpublications'.symm⟩

/-- A changed document is asked about as if it had been opened with its last text: a new line
below its labelled utterance goes on with a bullet, and the utterance is sent without its label.
Questions before and after the change make no difference to what is published. -/
theorem questions_leave_no_trace_labelled :
    let begun : List Message :=
      [.request (.setUp (some ([], none))), .notification (.opened "a" "# Greet".toList 1)]
    let text : Text := "# Greet\n- book \x7btime=5pm\x7d\n".toList
    let change : Message := .notification (.changed "a" 2 [[], text])
    let format : Question := .format "a" ⟨2, 0⟩ ['\n']
    let unlabel : Question := .unlabel "a" 2
    let s := after {} {} (begun ++ [change])
    let formatted := s.step {} (.request (.ask (some format)))
    let unlabelled := s.step {} (.request (.ask (some unlabel)))
    Store.lastChange? (edits (begun ++ [change])) "a" = some (.update "a" text 2) ∧
      (Answers formatted (.ofText text 2) (settingsFor {} [] none).locale s.debounce.now format ∧
        formatted.reply = some (.edits [.insertion ⟨2, 0⟩ "- ".toList])) ∧
      (Answers unlabelled (.ofText text 2) (settingsFor {} [] none).locale s.debounce.now unlabel ∧
        unlabelled.sent = [.unlabelled s.debounce.now
          [.insertion ⟨1, 0⟩ "- book 5pm\n".toList, .insertion ⟨1, 17⟩ "\n- book 5pm".toList]]) ∧
      publications {} {} (begun ++ [.request (.ask (some format)), change,
          .request (.ask (some unlabel)), .wait 200])
        = publications {} {} (begun ++ [change, .wait 200]) ∧
      (publications {} {} (begun ++ [change, .wait 200])).length = 1 := by
  intro begun text change format unlabel s formatted unlabelled
  have hchange : Store.lastChange? (edits (begun ++ [change])) "a" = some (.update "a" text 2) := by
    decide
  have hanswers (q : Question) (hq : subject q = "a") :
      Answers (s.step {} (.request (.ask (some q)))) (.ofText text 2)
        (settingsFor {} [] none).locale s.debounce.now q := by
    refine ((questions_leave_no_trace {}).1 [] [] none _ ?_ ?_ q _ _ rfl rfl).2 _ _ (.inr ?_)
    · decide
    · decide
    · rw [hq]
      exact hchange
  have hformat := hanswers format rfl
  have hunlabel := hanswers unlabel rfl
  refine ⟨hchange, ⟨hformat, hformat.1.trans ?_⟩, ⟨hunlabel, hunlabel.2.trans ?_⟩, ?_, ?_⟩
  · rfl
  · rfl
  · exact ((questions_leave_no_trace {}).2 _ _ (by decide)).2.2
  · decide +kernel

end Session

end LuServer
