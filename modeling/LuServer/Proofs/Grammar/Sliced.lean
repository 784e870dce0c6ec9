/-
# Reading with slices

The readers of the grammar once more, with every text cut by byte offsets, as a text in
memory is, and every cut able to fail.  None ever does: each of these readers gives what
the reader that works on characters gives.

* `Sliced`: a reading in which a cut can fail.
* `Sliced.nextWord`, `Sliced.name`, `Sliced.mentions`, `Sliced.modifiers`: the readers that cut.
* `Sliced.child`, `Sliced.definition`, `Sliced.lineForm`: the readers built from them.
* `Sliced.lineForm_eq`: no cut fails on any line.
-/
import LuServer.Grammar.Child
import LuServer.Grammar.Mention
import LuServer.Proofs.Grammar.Sign
import LuServer.Proofs.Grammar.Spelling
import LuServer.Proofs.Text.Slice
import Mathlib.Data.List.TakeWhile

namespace LuServer

/-- A reading that is given up with a fault, or breaks off where a cut fails. -/
abbrev Sliced (α : Type) : Type :=
  ExceptT Fault Option α

namespace Sliced

/-- A reading that does not break off. -/
def sure {α : Type} (x : Except Fault α) : Sliced α :=
  ExceptT.mk (some x)

/-- A cut, which can fail. -/
def cut {α : Type} (x : Option α) : Sliced α :=
  ExceptT.mk (x.map .ok)

@[simp] theorem cut_some {α : Type} (a : α) : cut (some a) = sure (.ok a) := rfl

@[simp] theorem run_sure {α : Type} (x : Except Fault α) : (sure x).run = some x := rfl

theorem sure_ok_bind {α β : Type} (a : α) (f : α → Sliced β) : sure (.ok a) >>= f = f a := rfl

/-- Readings that do not break off can be put together. -/
theorem sure_bind {α β : Type} {x : Except Fault α} {f : α → Sliced β} {g : α → Except Fault β}
    (h : ∀ a, f a = sure (g a)) : sure x >>= f = sure (x >>= g) := by
  cases x with
  | error fault => rfl
  | ok a => exact h a

/-- A reading may be given up in one case. -/
theorem sure_guard {β : Type} {c : Prop} [Decidable c] (fault : Fault) {x : Sliced β}
    {y : Except Fault β} (h : x = sure y) :
    (if c then (throw fault : Sliced PUnit) >>= (fun _ => x) else x)
      = sure (if c then (throw fault : Except Fault PUnit) >>= (fun _ => y) else y) := by
  by_cases hc : c
  · rw [if_pos hc, if_pos hc]
    rfl
  · rw [if_neg hc, if_neg hc, h]

/-! ## Words and names -/

/-- The first word and the rest, cut where the first blank is found. -/
def nextWord (t : Text) : Sliced (Text × Text) :=
  let s := t.trim
  match s.find? Text.isBlank with
  | some n => do
    let word ← cut (s.slice? 0 n)
    let rest ← cut (s.slice? n s.byteSize)
    return (word, rest.trim)
  | none => return (s, [])

theorem nextWord_eq (t : Text) : nextWord t = sure (.ok t.nextWord) := by
  unfold nextWord Text.nextWord
  dsimp only
  rcases Text.find?_cases Text.isBlank t.trim with
    ⟨hnone, hall⟩ | ⟨before, c, after, ht, hc, hbefore, hsome⟩
  · have hkept : ∀ b ∈ t.trim, (!Text.isBlank b) = true := by
      intro b hb
      rw [hall b hb]
      rfl
    rw [hnone, List.takeWhile_eq_self_iff.mpr hkept, List.dropWhile_eq_nil_iff.mpr hkept]
    rfl
  · obtain ⟨htake, hdrop⟩ := Text.takeWhile_of_first after hbefore hc
    rw [hsome, ht, htake, hdrop]
    dsimp only
    rw [Text.slice?_start, Text.slice?_end]
    rfl

/-- The name at the start of a text, cut at its second quote if it is quoted. -/
def name (t : Text) : Sliced (Text × Text) :=
  let s := t.trim
  match s.dropHead? '"' with
  | none => nextWord s
  | some r =>
    match r.find? (· == '"') with
    | none => throw (.unclosedQuote s)
    | some n => do
      let name ← cut (r.slice? 0 n)
      let rest ← cut (r.slice? (n + 1) r.byteSize)
      return (name.trim, rest.trim)

theorem cutAt_of_first {c : Char} {before : Text} (h : c ∉ before) (after : Text) :
    Text.cutAt c (before ++ c :: after) = some (before, after) := by
  induction before with
  | nil => simp [Text.cutAt]
  | cons b before ih =>
    obtain ⟨hb, hbefore⟩ := not_or.mp (mt List.mem_cons.mpr h)
    simp [Text.cutAt, Ne.symm hb, ih hbefore]

theorem name_eq (t : Text) : name t = sure (Name.split t) := by
  unfold name Name.split
  dsimp only
  cases t.trim.dropHead? '"' with
  | none => exact nextWord_eq t.trim
  | some r =>
    dsimp only
    rcases Text.find?_cases (· == '"') r with
      ⟨hnone, hall⟩ | ⟨before, c, after, hr, hc, hbefore, hsome⟩
    · have hcut : r.cutAt '"' = none := by
        rw [Text.cutAt_eq_none]
        intro hmem
        exact absurd (hall _ hmem) (by decide)
      rw [hnone, hcut]
      rfl
    · obtain rfl : c = '"' := by simpa using hc
      have hfirst : '"' ∉ before := by
        intro hmem
        exact absurd (hbefore _ hmem) (by decide)
      have hrest : (before ++ '"' :: after).slice? (Text.byteSize before + 1)
          (Text.byteSize (before ++ '"' :: after)) = some after := by
        have hend := Text.slice?_end (before ++ ['"']) after
        rwa [Text.byteSize_append, List.append_assoc] at hend
      rw [hsome, hr, cutAt_of_first hfirst]
      dsimp only
      rw [Text.slice?_start, hrest]
      rfl

/-! ## Mentions -/

/-- The mentions in what is left of `utterance` from byte `n` on; `start` is the offset of
the brace that was opened last. -/
def scan (utterance : Text) : Nat → Option Nat → Text → Sliced (List Mention)
  | _, none, [] => return []
  | _, some _, [] => throw (.unclosedBrace utterance)
  | n, none, c :: rest =>
    if c = '{' then scan utterance (n + c.utf8Size) (some n) rest
    else if c = '}' then throw (.unopenedBrace utterance)
    else scan utterance (n + c.utf8Size) none rest
  | n, some start, c :: rest =>
    if c = '{' then throw (.nestedBrace utterance)
    else if c = '}' then do
      let span ← cut (utterance.slice? (start + 1) n)
      let mention ← sure (Mention.read span)
      let others ← scan utterance (n + c.utf8Size) none rest
      return mention :: others
    else scan utterance (n + c.utf8Size) (some start) rest

/-- The mentions of an utterance. -/
def mentions (utterance : Text) : Sliced (List Mention) :=
  if utterance = [] then throw .emptyUtterance else scan utterance 0 none utterance

/-- The scan is right wherever it has come to: behind `before`, and, if a brace is open,
behind the text since then. -/
theorem scan_eq (utterance t : Text) :
    (∀ before, utterance = before ++ t →
      scan utterance (Text.byteSize before) none t = sure (Mention.scan utterance none t)) ∧
    (∀ before span, utterance = before ++ '{' :: span ++ t →
      scan utterance (Text.byteSize (before ++ '{' :: span)) (some (Text.byteSize before)) t
        = sure (Mention.scan utterance (some span) t)) := by
  induction t with
  | nil => exact ⟨fun _ _ => rfl, fun _ _ _ => rfl⟩
  | cons c t ih =>
    constructor
    · intro before h
      rw [scan, Mention.scan]
      by_cases hopen : c = '{'
      · subst hopen
        rw [if_pos rfl, if_pos rfl]
        have hplace := ih.2 before [] (by simpa using h)
        rwa [Text.byteSize_append] at hplace
      rw [if_neg hopen, if_neg hopen]
      by_cases hclose : c = '}'
      · rw [if_pos hclose, if_pos hclose]
        rfl
      rw [if_neg hclose, if_neg hclose]
      have hplace := ih.1 (before ++ [c]) (by simpa using h)
      rwa [Text.byteSize_append] at hplace
    · intro before span h
      rw [scan, Mention.scan]
      by_cases hopen : c = '{'
      · rw [if_pos hopen, if_pos hopen]
        rfl
      rw [if_neg hopen, if_neg hopen]
      by_cases hclose : c = '}'
      · subst hclose
        rw [if_pos rfl, if_pos rfl]
        -- the opening brace is one byte, so the slice starts behind it
        have hslice : utterance.slice? (Text.byteSize before + 1)
            (Text.byteSize (before ++ '{' :: span)) = some span := by
          rw [show utterance = before ++ ['{'] ++ span ++ '}' :: t by simpa using h]
          refine Text.slice?_append (before ++ ['{']) span ('}' :: t) ?_ ?_
          · rw [Text.byteSize_append]
            rfl
          · rw [← Text.byteSize_append]
            simp
        have hplace := ih.1 (before ++ '{' :: span ++ ['}']) (by simpa using h)
        rw [Text.byteSize_append] at hplace
        rw [hslice, cut_some, sure_ok_bind]
        refine sure_bind fun mention => ?_
        rw [show Text.byteSize (before ++ '{' :: span) + ('}' : Char).utf8Size
          = Text.byteSize (before ++ '{' :: span) + Text.byteSize ['}'] from rfl, hplace]
        exact sure_bind fun others => rfl
      rw [if_neg hclose, if_neg hclose]
      have hplace := ih.2 before (span ++ [c]) (by simpa using h)
      rwa [show before ++ '{' :: (span ++ [c]) = before ++ '{' :: span ++ [c] by simp,
        Text.byteSize_append] at hplace

theorem mentions_eq (utterance : Text) : mentions utterance = sure (Mention.all utterance) := by
  unfold mentions Mention.all
  split
  · rfl
  · exact (scan_eq utterance utterance).1 [] rfl

/-! ## Modifiers -/

/-- The offsets at which keywords start and end in a text whose first byte is `n`. -/
def keywords (inWord : Bool) (n : Nat) : Text → List (Nat × Nat)
  | [] => []
  | c :: rest =>
    let others := keywords (Text.isWord c) (n + c.utf8Size) rest
    match if inWord then none else Modifiers.keyword? (c :: rest) with
    | some w => (n, n + w.byteSize) :: others
    | none => others

/-- Where the next keyword starts, or else the text ends. -/
def nextStart (text : Text) (keys : List (Nat × Nat)) : Nat :=
  (keys.head?.map Prod.fst).getD text.byteSize

/-- The clauses that keywords at given offsets begin. -/
def clauses (text : Text) : List (Nat × Nat) → Sliced (List Clause)
  | [] => return []
  | (start, stop) :: keys => do
    let word ← cut (text.slice? start stop)
    let body ← cut (text.slice? stop (nextStart text keys))
    let others ← clauses text keys
    return ⟨word, body⟩ :: others

/-- The modifiers that a text consists of. -/
def modifiers (t : Text) : Sliced Modifiers := do
  let s := t.trim
  let keys := keywords false 0 s
  let lead ← cut (s.slice? 0 (nextStart s keys))
  if lead ≠ [] then throw (.unexpectedWords lead.trim)
  let cs ← clauses s keys
  sure (cs.foldlM Modifiers.add {})

/-- A keyword is the start of the text it is found in, and a word. -/
theorem keyword?_eq_some {t w : Text} (h : Modifiers.keyword? t = some w) :
    ∃ r, t = w ++ r ∧ ∀ c ∈ w, Text.isWord c = true := by
  obtain ⟨k, r, ht, -, hw⟩ := Modifiers.keyword?_eq_some_iff.mp h
  exact ⟨r, ht, hw.isWord⟩

/-- No keyword starts inside a word. -/
theorem lead_of_word {w : Text} (hw : ∀ c ∈ w, Text.isWord c = true) (r : Text) :
    ∃ lead, (Modifiers.clauses true (w ++ r)).1 = w ++ lead := by
  induction w with
  | nil => exact ⟨_, rfl⟩
  | cons c w ih =>
    obtain ⟨lead, hlead⟩ := ih fun d hd => hw d (List.mem_cons_of_mem c hd)
    refine ⟨lead, ?_⟩
    rw [List.cons_append, Modifiers.clauses, hw c List.mem_cons_self]
    simp [hlead]

/-- So the lead that follows the start of a keyword begins with the keyword. -/
theorem lead_of_keyword {c : Char} {t w tail : Text} (ht : c :: t = w ++ tail)
    (hw : ∀ a ∈ w, Text.isWord a = true) :
    ∃ body, c :: (Modifiers.clauses (Text.isWord c) t).1 = w ++ body := by
  cases w with
  | nil => exact ⟨_, rfl⟩
  | cons a w =>
    rw [List.cons_append] at ht
    obtain ⟨rfl, rfl⟩ := List.cons.inj ht
    obtain ⟨body, hbody⟩ := lead_of_word (fun b hb => hw b (List.mem_cons_of_mem c hb)) tail
    exact ⟨body, by rw [hw c List.mem_cons_self, hbody, List.cons_append]⟩

/-- What the search for keywords finds, behind `before`: the next keyword starts where the
clauses start, and the slices from there on are the clauses. -/
theorem clauses_eq (before : Text) (inWord : Bool) (t : Text) :
    (∃ rest, t = (Modifiers.clauses inWord t).1 ++ rest) ∧
    nextStart (before ++ t) (keywords inWord (Text.byteSize before) t)
      = Text.byteSize (before ++ (Modifiers.clauses inWord t).1) ∧
    clauses (before ++ t) (keywords inWord (Text.byteSize before) t)
      = sure (.ok (Modifiers.clauses inWord t).2) := by
  induction t generalizing before inWord with
  | nil => exact ⟨⟨[], rfl⟩, rfl, rfl⟩
  | cons c t ih =>
    obtain ⟨⟨rest, hrest⟩, hnext, hclauses⟩ := ih (before ++ [c]) (Text.isWord c)
    rw [List.append_assoc, List.singleton_append,
      show Text.byteSize (before ++ [c]) = Text.byteSize before + c.utf8Size by simp]
      at hnext hclauses
    unfold keywords Modifiers.clauses
    dsimp only
    cases hkey : (if inWord then none else Modifiers.keyword? (c :: t)) with
    | none =>
      refine ⟨⟨rest, congrArg (c :: ·) hrest⟩, ?_, hclauses⟩
      rw [hnext, List.append_assoc, List.singleton_append]
    | some w =>
      have hword : Modifiers.keyword? (c :: t) = some w := by
        split at hkey
        · cases hkey
        · exact hkey
      obtain ⟨tail, ht, hw⟩ := keyword?_eq_some hword
      -- no keyword starts inside this one, so the next lead begins with it
      obtain ⟨body, hbody⟩ := lead_of_keyword ht hw
      have hparts : before ++ c :: t = before ++ w ++ body ++ rest := by
        rw [hrest, ← List.cons_append, hbody]
        simp
      have hstop : nextStart (before ++ c :: t)
          (keywords (Text.isWord c) (Text.byteSize before + c.utf8Size) t)
            = Text.byteSize (before ++ w) + Text.byteSize body := by
        rw [hnext, List.append_assoc, List.singleton_append, hbody, ← Text.byteSize_append,
          List.append_assoc]
      have hhead : (before ++ c :: t).slice? (Text.byteSize before)
          (Text.byteSize before + Text.byteSize w) = some w := by
        rw [ht, ← List.append_assoc]
        exact Text.slice?_append before w tail rfl rfl
      have htail : (before ++ c :: t).slice? (Text.byteSize before + Text.byteSize w)
          (Text.byteSize (before ++ w) + Text.byteSize body) = some body := by
        rw [hparts]
        exact Text.slice?_append (before ++ w) body rest (Text.byteSize_append before w).symm rfl
      refine ⟨⟨c :: t, rfl⟩, by simp [nextStart], ?_⟩
      rw [clauses, hstop, hhead, htail, hclauses, hbody]
      dsimp only
      rw [List.drop_left]
      rfl

theorem modifiers_eq (t : Text) : modifiers t = sure (Modifiers.read t) := by
  obtain ⟨⟨rest, hrest⟩, hnext, hclauses⟩ := clauses_eq [] false t.trim
  rw [List.nil_append, List.nil_append, Text.byteSize_nil] at hnext
  rw [List.nil_append, Text.byteSize_nil] at hclauses
  have hlead : t.trim.slice? 0 (nextStart t.trim (keywords false 0 t.trim))
      = some (Modifiers.clauses false t.trim).1 := by
    have hstart := Text.slice?_start (Modifiers.clauses false t.trim).1 rest
    rwa [← hrest, ← hnext] at hstart
  unfold modifiers Modifiers.read
  dsimp only
  rw [hlead, hclauses, cut_some, sure_ok_bind]
  split
  · rfl
  · rfl

/-! ## Children -/

/-- The parts of a child. -/
def childParts (header : Text) : Sliced (EntityKind × Text × List Text × Text) := do
  let (first, rest) ← nextWord header
  if first = [] then throw .unnamedChild
  let (second, tail) ← nextWord rest
  match EntityKind.ofKeyword? first with
  | some kind =>
    if second = [] then throw (.missingChildName kind) else return (kind, second, [], tail)
  | none =>
    if second = [] ∨ Modifiers.occursIn second = true then return (.ml, first, [], rest)
    else return (.ml, second, [first], tail)

theorem childParts_eq (header : Text) : childParts header = sure (Child.parts header) := by
  unfold childParts Child.parts
  rw [nextWord_eq, sure_ok_bind]
  dsimp only
  split
  · rfl
  · rw [nextWord_eq, sure_ok_bind]
    cases EntityKind.ofKeyword? header.nextWord.1 with
    | some kind =>
      dsimp only
      split <;> rfl
    | none =>
      dsimp only
      split <;> rfl

/-- The child that a bullet declares. -/
def child (content : Text) : Sliced Child :=
  match content.dropHead? '@' with
  | none => throw (.notAChild content)
  | some declared => do
    let (kind, name, features, rest) ← childParts (declared.upTo '=').trim
    sure (Name.check name)
    let given ← modifiers rest
    return ⟨kind, name, { given with features := features ++ given.features }⟩

theorem child_eq (content : Text) : child content = sure (Child.read content) := by
  unfold child Child.read
  cases content.dropHead? '@' with
  | none => rfl
  | some declared =>
    dsimp only
    rw [childParts_eq]
    refine sure_bind fun (kind, name, features, rest) => ?_
    refine sure_bind fun _ => ?_
    rw [modifiers_eq]
    exact sure_bind fun given => rfl

/-! ## Definitions and lines -/

/-- A definition of an intent. -/
def intent (rest : Text) (body : Option Text) : Sliced Definition := do
  let (name, rest) ← name rest
  if name = [] then throw .missingDefinedIntent
  sure (Name.check name)
  let given ← modifiers rest
  if given.roles ≠ [] then throw (.intentWithRoles name)
  if body.getD [] ≠ [] then throw (.intentWithValue name)
  return .intent name given.features

/-- A definition of an entity with its kind. -/
def typed (kind : EntityKind) (rest : Text) (body : Option Text) : Sliced Definition := do
  let (written, rest) ← name rest
  if written = [] then throw (.missingEntityName kind)
  let name := Definition.plainName kind written
  sure (Name.check name)
  if kind = .prebuilt ∧ EntityKind.isPrebuiltName name = false then
    throw (.unknownPrebuilt name)
  let given ← modifiers rest
  return .typed kind name given body

/-- Additions to an entity. -/
def separated (header : Text) (body : Option Text) : Sliced Definition := do
  let (name, rest) ← name header
  sure (Name.check name)
  let given ← modifiers rest
  if body = none ∧ given.isEmpty = true then throw (.unknownKind name)
  return .separated name given body

/-- What a line declares. -/
def definition (t : Text) : Sliced Definition := do
  let (header, body) := Definition.splitBody t
  let (first, rest) ← nextWord header
  if first.asciiLower = "intent".toList then intent rest body
  else match EntityKind.ofKeyword? first with
    | some kind => typed kind rest body
    | none => separated header body

theorem intent_eq (rest : Text) (body : Option Text) :
    intent rest body = sure (Definition.readIntent rest body) := by
  unfold intent Definition.readIntent
  rw [name_eq]
  refine sure_bind fun (name, rest) => ?_
  refine sure_guard _ ?_
  refine sure_bind fun _ => ?_
  rw [modifiers_eq]
  refine sure_bind fun given => ?_
  exact sure_guard _ (sure_guard _ rfl)

theorem typed_eq (kind : EntityKind) (rest : Text) (body : Option Text) :
    typed kind rest body = sure (Definition.readTyped kind rest body) := by
  unfold typed Definition.readTyped
  rw [name_eq]
  refine sure_bind fun (written, rest) => ?_
  refine sure_guard _ ?_
  refine sure_bind fun _ => ?_
  refine sure_guard _ ?_
  rw [modifiers_eq]
  exact sure_bind fun given => rfl

theorem separated_eq (header : Text) (body : Option Text) :
    separated header body = sure (Definition.readSeparated header body) := by
  unfold separated Definition.readSeparated
  rw [name_eq]
  refine sure_bind fun (name, rest) => ?_
  refine sure_bind fun _ => ?_
  rw [modifiers_eq]
  refine sure_bind fun given => ?_
  exact sure_guard _ rfl

theorem definition_eq (t : Text) : definition t = sure (Definition.read t) := by
  unfold definition Definition.read
  dsimp only
  rw [nextWord_eq, sure_ok_bind]
  split
  · exact intent_eq _ _
  · cases EntityKind.ofKeyword? (Definition.splitBody t).1.nextWord.1 with
    | some kind => exact typed_eq kind _ _
    | none => exact separated_eq _ _

/-- The form of a line, of which only a definition has to be cut. -/
def lineForm (line : Text) : Option LineForm :=
  match line.trim with
  | '@' :: rest =>
    if Text.trim rest = [] then some (.rejected .emptyDefinition)
    else (definition (Text.trim rest)).run.map .definition
  | _ => some (LineForm.ofLine line)

theorem lineForm_eq (line : Text) : lineForm line = some (LineForm.ofLine line) := by
  unfold lineForm
  split
  · next rest h =>
    have hform : LineForm.ofLine line = LineForm.ofDefinition rest := Line.ofLine_cons h
    rw [hform, LineForm.ofDefinition, definition_eq]
    split <;> rfl
  · rfl

end Sliced

end LuServer
