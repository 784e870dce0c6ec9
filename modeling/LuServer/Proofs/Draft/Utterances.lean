/-
# The grammar of utterances

An utterance is plain text with spans in braces, never one inside another.  A span labels words,
`{name=words}`, or stands for a value, `{name}` or `{name:role}`; `@` signs in front of a name do
not count.  These utterances are read and no others, and what their spans say is taken down from
left to right.

* `Mention.Spelled`: the spans that are well formed, and what each says.
* `Mention.read_eq_ok_iff`: they are the spans that are read.
* `Mention.Woven`: plain text with spans in it.
* `Mention.scan_eq_ok_iff`: the texts that are read to their end.
* `utterance_grammar`: what becomes of a bullet of an intent.
-/
import LuServer.Proofs.Draft.Bullet
import LuServer.Proofs.Grammar.Proper
import LuServer.Proofs.Grammar.Sliced
import LuServer.Proofs.Model.Names
import LuServer.Proofs.Text.Trim

namespace LuServer

namespace Mention

/-! ## Spans -/

/-- The spans that are well formed, and what each says.  A span that is well formed is not
blank, since it has a name. -/
inductive Spelled : Text → Mention → Prop
  /-- The name, with whatever follows a colon, then the first equals sign, then the words. -/
  | label {key words : Text} (hequals : '=' ∉ key)
    (hname : ((dropSigns key.trim).upTo ':').trim ≠ []) (hwords : words.trim ≠ []) :
    Spelled (key ++ '=' :: words) (.label ((dropSigns key.trim).upTo ':').trim)
  /-- The name, then the first colon, then the role. -/
  | role {key role : Text} (hequals : '=' ∉ key ++ ':' :: role) (hcolon : ':' ∉ key)
    (hname : (dropSigns key.trim).trim ≠ []) (hrole : role.trim ≠ []) :
    Spelled (key ++ ':' :: role) (.reference ⟨(dropSigns key.trim).trim, some role.trim⟩)
  /-- A name and nothing else. -/
  | plain {key : Text} (hequals : '=' ∉ key) (hcolon : ':' ∉ key)
    (hname : (dropSigns key.trim).trim ≠ []) :
    Spelled key (.reference ⟨(dropSigns key.trim).trim, none⟩)

theorem trim_ne_nil {s : Text} {c : Char} (hc : Text.isBlank c = false) (h : c ∈ s) :
    s.trim ≠ [] :=
  List.ne_nil_of_mem (Text.mem_trim hc h)

/-- A sign that is not blank cuts the trimmed text where it cuts the text. -/
theorem cutAt_trim {c : Char} (hc : Text.isBlank c = false) {key : Text} (hkey : c ∉ key)
    (rest : Text) :
    (key ++ c :: rest).trim.cutAt c = some (key.trimStart, rest.trimEnd) := by
  have hstart : c ∉ key.trimStart := fun hmem => hkey ((List.dropWhile_suffix _).subset hmem)
  rw [Text.trim, Text.trimStart_append_cons key hc, Text.trimEnd_append_cons _ hc,
    Sliced.cutAt_of_first hstart]

theorem cutAt_trim_of_not_mem {c : Char} {s : Text} (h : c ∉ s) : s.trim.cutAt c = none :=
  Text.cutAt_eq_none.mpr fun hmem => h (Text.mem_of_mem_trim hmem)

theorem read_label {key : Text} (hkey : '=' ∉ key) (words : Text) :
    read (key ++ '=' :: words)
      = if ((dropSigns key.trim).upTo ':').trim = [] then
          .error (.unnamedLabel (key ++ '=' :: words).trim)
        else if words.trim = [] then .error (.emptyLabel (key ++ '=' :: words).trim)
        else .ok (.label ((dropSigns key.trim).upTo ':').trim) := by
  have hne : (key ++ '=' :: words).trim ≠ [] := trim_ne_nil (by decide) (c := '=') (by simp)
  rw [read]
  dsimp only
  rw [if_neg hne, cutAt_trim (by decide) hkey]
  dsimp only
  rw [Text.trim_trimStart, Text.trim_trimEnd, Text.trim_upTo_trim (by decide)]

theorem read_role {key role : Text} (hequals : '=' ∉ key ++ ':' :: role) (hcolon : ':' ∉ key) :
    read (key ++ ':' :: role)
      = if (dropSigns key.trim).trim = [] ∨ role.trim = [] then
          .error (.malformedReference (key ++ ':' :: role).trim)
        else .ok (.reference ⟨(dropSigns key.trim).trim, some role.trim⟩) := by
  have hne : (key ++ ':' :: role).trim ≠ [] := trim_ne_nil (by decide) (c := ':') (by simp)
  rw [read]
  dsimp only
  rw [if_neg hne, cutAt_trim_of_not_mem hequals, cutAt_trim (by decide) hcolon]
  simp only [Text.trim_trimStart, Text.trim_trimEnd, Option.some.injEq]

theorem read_plain {key : Text} (hequals : '=' ∉ key) (hcolon : ':' ∉ key)
    (hname : (dropSigns key.trim).trim ≠ []) :
    read key = .ok (.reference ⟨(dropSigns key.trim).trim, none⟩) := by
  have hne : key.trim ≠ [] := by
    intro hnil
    rw [hnil] at hname
    exact hname rfl
  rw [read]
  dsimp only
  rw [if_neg hne, cutAt_trim_of_not_mem hequals, cutAt_trim_of_not_mem hcolon]
  simp [hname]

/-- A text is cut at the first place of a sign, if it has one. -/
theorem cut_cases (c : Char) (s : Text) :
    (∃ key rest, s = key ++ c :: rest ∧ c ∉ key) ∨ c ∉ s := by
  cases hcut : s.cutAt c with
  | some parts => exact .inl ⟨parts.1, parts.2, Text.cutAt_eq_some hcut⟩
  | none => exact .inr (Text.cutAt_eq_none.mp hcut)

theorem spelled_of_read {s : Text} {m : Mention} (h : read s = .ok m) : Spelled s m := by
  rcases cut_cases '=' s with ⟨key, words, rfl, hequals⟩ | hequals
  · rw [read_label hequals] at h
    split at h
    · cases h
    · next hname =>
      split at h
      · cases h
      · next hwords =>
        cases h
        exact .label hequals hname hwords
  · rcases cut_cases ':' s with ⟨key, role, rfl, hcolon⟩ | hcolon
    · rw [read_role hequals hcolon] at h
      split at h
      · cases h
      · next hboth =>
        cases h
        exact .role hequals hcolon (fun hname => hboth (.inl hname)) fun hrole => hboth (.inr hrole)
    · by_cases hname : (dropSigns s.trim).trim = []
      · rw [read] at h
        dsimp only at h
        rw [cutAt_trim_of_not_mem hequals, cutAt_trim_of_not_mem hcolon] at h
        simp only [hname, true_or, if_true] at h
        split at h <;> cases h
      · rw [read_plain hequals hcolon hname] at h
        cases h
        exact .plain hequals hcolon hname

theorem read_of_spelled {s : Text} {m : Mention} (h : Spelled s m) : read s = .ok m := by
  cases h with
  | label hequals hname hwords => rw [read_label hequals, if_neg hname, if_neg hwords]
  | role hequals hcolon hname hrole =>
    rw [read_role hequals hcolon, if_neg (not_or.mpr ⟨hname, hrole⟩)]
  | plain hequals hcolon hname => exact read_plain hequals hcolon hname

/-- The spans that are read are those that are well formed. -/
theorem read_eq_ok_iff {s : Text} {m : Mention} : read s = .ok m ↔ Spelled s m :=
  ⟨spelled_of_read, read_of_spelled⟩

/-! ## Braces -/

/-- A text without braces. -/
def Plain (t : Text) : Prop :=
  '{' ∉ t ∧ '}' ∉ t

instance (t : Text) : Decidable (Plain t) := by
  unfold Plain
  infer_instance

/-- Plain text with these spans in braces, from left to right. -/
inductive Woven : Text → List Text → Prop
  | plain {t : Text} (ht : Plain t) : Woven t []
  | span {t s rest : Text} {spans : List Text} (ht : Plain t) (hs : Plain s)
    (hrest : Woven rest spans) : Woven (t ++ '{' :: (s ++ '}' :: rest)) (s :: spans)

theorem plain_nil : Plain [] := by
  simp [Plain]

theorem Plain.cons {c : Char} {t : Text} (hopen : c ≠ '{') (hclose : c ≠ '}') (ht : Plain t) :
    Plain (c :: t) := by
  simp [Plain, ht.1, ht.2, hopen.symm, hclose.symm]

theorem Woven.cons {c : Char} {t : Text} {spans : List Text} (hopen : c ≠ '{') (hclose : c ≠ '}')
    (h : Woven t spans) : Woven (c :: t) spans := by
  cases h with
  | plain ht => exact .plain (ht.cons hopen hclose)
  | span ht hs hrest => exact .span (ht.cons hopen hclose) hs hrest

/-- Plain text outside of braces is passed over. -/
theorem scan_plain_append (utterance : Text) {t : Text} (ht : Plain t) (rest : Text) :
    scan utterance none (t ++ rest) = scan utterance none rest := by
  induction t with
  | nil => rfl
  | cons c t ih =>
    obtain ⟨hopen, hclose⟩ := ht
    simp only [List.mem_cons, not_or] at hopen hclose
    rw [List.cons_append, scan, if_neg (Ne.symm hopen.1), if_neg (Ne.symm hclose.1)]
    exact ih ⟨hopen.2, hclose.2⟩

/-- A span is read when its brace is closed. -/
theorem scan_span_append (utterance before : Text) {s : Text} (hs : Plain s) (rest : Text) :
    scan utterance (some before) (s ++ '}' :: rest) = (do
      let mention ← read (before ++ s)
      let others ← scan utterance none rest
      return mention :: others) := by
  induction s generalizing before with
  | nil => rw [List.nil_append, scan, if_neg (by decide), if_pos rfl, List.append_nil]
  | cons c s ih =>
    obtain ⟨hopen, hclose⟩ := hs
    simp only [List.mem_cons, not_or] at hopen hclose
    rw [List.cons_append, scan, if_neg (Ne.symm hopen.1), if_neg (Ne.symm hclose.1),
      ih (before ++ [c]) ⟨hopen.2, hclose.2⟩, List.append_assoc, List.singleton_append]

theorem scan_of_woven (utterance : Text) {t : Text} {spans : List Text} {ms : List Mention}
    (h : Woven t spans) (hms : List.Forall₂ Spelled spans ms) :
    scan utterance none t = .ok ms := by
  induction h generalizing ms with
  | @plain t ht =>
    cases hms
    rw [← List.append_nil t, scan_plain_append utterance ht, scan]
  | span ht hs hrest ih =>
    obtain _ | ⟨hspelled, hothers⟩ := hms
    rw [scan_plain_append utterance ht, scan, if_pos rfl, scan_span_append utterance [] hs,
      List.nil_append, read_of_spelled hspelled, ih hothers]
    rfl

/-- Where a scan has come to is between two spans, or inside of one whose first part has been
read. -/
theorem woven_of_scan {utterance : Text} {span : Option Text} {t : Text} {ms : List Mention}
    (h : scan utterance span t = .ok ms) :
    match span with
    | none => ∃ spans, Woven t spans ∧ List.Forall₂ Spelled spans ms
    | some before => ∃ s rest spans, t = s ++ '}' :: rest ∧ Plain s ∧ Woven rest spans ∧
        List.Forall₂ Spelled ((before ++ s) :: spans) ms := by
  fun_induction scan utterance span t generalizing ms with
  | case1 =>
    cases h
    exact ⟨[], .plain plain_nil, .nil⟩
  | case2 => cases h
  | case3 rest ih =>
    obtain ⟨s, tail, spans, rfl, hs, htail, hms⟩ := ih h
    exact ⟨s :: spans, .span plain_nil hs htail, hms⟩
  | case4 => cases h
  | case5 c rest hopen hclose ih =>
    rw [scan, if_neg hopen, if_neg hclose] at h
    obtain ⟨spans, hspans, hms⟩ := ih h
    exact ⟨spans, hspans.cons hopen hclose, hms⟩
  | case6 => cases h
  | case7 before rest hclose ih =>
    obtain ⟨m, hread, h⟩ := bind_eq_ok.mp h
    obtain ⟨others, hscan, h⟩ := bind_eq_ok.mp h
    cases h
    obtain ⟨spans, hspans, hms⟩ := ih hscan
    refine ⟨[], rest, spans, rfl, plain_nil, hspans, ?_⟩
    rw [List.append_nil]
    exact .cons (spelled_of_read hread) hms
  | case8 before c rest hopen hclose ih =>
    rw [scan, if_neg hopen, if_neg hclose] at h
    obtain ⟨s, tail, spans, rfl, hs, htail, hms⟩ := ih h
    refine ⟨c :: s, tail, spans, rfl, hs.cons hopen hclose, htail, ?_⟩
    rwa [List.append_assoc] at hms

/-- The texts that are read to their end are those with well formed spans between plain text. -/
theorem scan_eq_ok_iff {utterance t : Text} {ms : List Mention} :
    scan utterance none t = .ok ms ↔
      ∃ spans, Woven t spans ∧ List.Forall₂ Spelled spans ms :=
  ⟨woven_of_scan, fun ⟨_, hspans, hms⟩ => scan_of_woven utterance hspans hms⟩

/-- So it is for utterances, which are not empty. -/
theorem all_eq_ok_iff {t : Text} {ms : List Mention} :
    all t = .ok ms ↔ t ≠ [] ∧ ∃ spans, Woven t spans ∧ List.Forall₂ Spelled spans ms := by
  have hscan : scan t none t = .ok ms ↔ _ := scan_eq_ok_iff
  rw [all, ← hscan]
  split
  · next hnil => simp [hnil]
  · next hne => simp [hne]

end Mention

/-! ## Utterances of an intent -/

open Mention in
/-- **The grammar of utterances.**  Under an intent a bullet is read exactly if it is not empty
and consists of plain text and well formed spans.  Then the names that label words are added to
the labels, each once and where it is new, the other spans to the references, and the text to the
utterances of the intent.  A bullet that is not read changes nothing. -/
theorem utterance_grammar {d : Draft} {i : Nat} (hblock : d.block = .intent i) (content : Text) :
    (∀ next, d.item content = (next, none) ↔
      content ≠ [] ∧ ∃ spans ms, Woven content spans ∧ List.Forall₂ Spelled spans ms ∧
        next = { d with model := { d.model with
          labels := d.model.labels ++ ((labels ms).filter (· ∉ d.model.labels)).eraseDups
          patternReferences := d.model.patternReferences ++ references ms
          intents := d.model.intents.modify i fun x =>
            { x with utterances := x.utterances ++ [content] } } }) ∧
    ∀ fault, (d.item content).2 = some fault → (d.item content).1 = d := by
  have hitem : d.item content = d.utterance i content := by rw [Draft.item, hblock]
  simp only [← appendNew_eq]
  rw [hitem, Draft.utterance]
  cases hall : all content with
  | error fault =>
    refine ⟨fun next => ⟨fun h => (by cases h), ?_⟩, fun _ _ => rfl⟩
    rintro ⟨hne, spans, ms, hspans, hms, -⟩
    rw [all_eq_ok_iff.mpr ⟨hne, spans, hspans, hms⟩] at hall
    cases hall
  | ok found =>
    refine ⟨fun next => ⟨?_, ?_⟩, fun fault h => (by cases h)⟩
    · intro h
      obtain ⟨hne, spans, hspans, hms⟩ := all_eq_ok_iff.mp hall
      exact ⟨hne, spans, found, hspans, hms, (congrArg Prod.fst h).symm⟩
    · rintro ⟨hne, spans, ms, hspans, hms, rfl⟩
      -- the spans of a text say one thing only
      rw [all_eq_ok_iff.mpr ⟨hne, spans, hspans, hms⟩] at hall
      obtain rfl := Except.ok.inj hall
      rfl

open Mention in
/-- A label that is known, a new one, and two places for a city. -/
theorem utterance_grammar_mixed :
    let d : Draft :=
      { model := { intents := [{ name := "Fly".toList }], labels := ["day".toList] }
        block := .intent 0 }
    let content : Text :=
      "fly \x7bday=now\x7d to \x7b@city:to\x7d or \x7bcity\x7d \x7bseat=2A\x7d".toList
    d.block = .intent 0 ∧
      d.item content = ({ d with model := {
        intents := [{ name := "Fly".toList, utterances := [content] }]
        labels := ["day".toList, "seat".toList]
        patternReferences :=
          [⟨"city".toList, some "to".toList⟩, ⟨"city".toList, none⟩] } }, none) := by
  intro d content
  have hwoven : Woven content
      ["day=now".toList, "@city:to".toList, "city".toList, "seat=2A".toList] :=
    .span (t := "fly ".toList) (s := "day=now".toList) (by decide) (by decide)
      (.span (t := " to ".toList) (s := "@city:to".toList) (by decide) (by decide)
        (.span (t := " or ".toList) (s := "city".toList) (by decide) (by decide)
          (.span (t := " ".toList) (s := "seat=2A".toList) (by decide) (by decide)
            (.plain plain_nil))))
  have hspelled : List.Forall₂ Spelled
      ["day=now".toList, "@city:to".toList, "city".toList, "seat=2A".toList]
      [.label "day".toList, .reference ⟨"city".toList, some "to".toList⟩,
        .reference ⟨"city".toList, none⟩, .label "seat".toList] :=
    .cons (@Spelled.label "day".toList "now".toList (by decide) (by decide) (by decide))
      (.cons (@Spelled.role "@city".toList "to".toList (by decide) (by decide) (by decide)
        (by decide))
        (.cons (@Spelled.plain "city".toList (by decide) (by decide) (by decide))
          (.cons (@Spelled.label "seat".toList "2A".toList (by decide) (by decide) (by decide))
            .nil)))
  have hrecorded := ((utterance_grammar (d := d) (i := 0) rfl content).1 _).mpr
    ⟨by decide, _, _, hwoven, hspelled, rfl⟩
  exact ⟨rfl, hrecorded⟩

end LuServer
