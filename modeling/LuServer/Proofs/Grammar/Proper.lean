/-
# What readings hand on

Whatever the readers of the grammar accept is proper: names are names, and lists of names
have no empty entry.  Each reader has one lemma that says what its result is like; what is
built from a result needs nothing else.

* `Modifiers.Proper`, `Definition.Proper`, `Mention.Proper`, `Body.Fits`: results as they
  should be.
* `Modifiers.proper_of_read`, `Child.proper_of_read`, `Definition.proper_of_read`,
  `Mention.proper_of_all`, `Body.fits_of_read`: results as they are.
* `LineForm.proper_of_definition`: the same for whole lines.
-/
import LuServer.Grammar.Child
import LuServer.Grammar.Mention
import LuServer.Proofs.Grammar.Sign

namespace LuServer

/-! ## Readings in steps -/

theorem bind_eq_ok {ε α β : Type} {x : Except ε α} {f : α → Except ε β} {b : β} :
    x >>= f = .ok b ↔ ∃ a, x = .ok a ∧ f a = .ok b := by
  cases x with
  | error e => simp [bind, Except.bind]
  | ok a => simp [bind, Except.bind]

/-- A reading that gives up in one case is in the other if it goes on. -/
theorem ite_throw_eq_ok {ε α β : Type} {c : Prop} [Decidable c] {e : ε} {f : α → Except ε β}
    {x : Except ε β} {b : β} :
    (if c then throw e >>= f else x) = .ok b ↔ ¬c ∧ x = .ok b := by
  by_cases hc : c
  · simp [hc, throw, throwThe, MonadExceptOf.throw, bind, Except.bind]
  · simp [hc]

/-! ## Names and lists of names -/

theorem Text.nil_notMem_items (t : Text) : [] ∉ t.items := by
  simp [Text.items]

namespace Name

theorem isValid_of_check {t : Text} {u : Unit} (h : check t = .ok u) : isValid t = true := by
  unfold check at h
  split at h
  · assumption
  · cases h

theorem ne_nil_of_isValid {t : Text} (h : isValid t = true) : t ≠ [] := by
  rintro rfl
  cases h

/-- The first character of a name is one of those that words of names consist of. -/
theorem isNameChar_head {t : Text} (h : isValid t = true) {c : Char} (hc : t.head? = some c) :
    isNameChar c = true := by
  simp only [isValid, Bool.and_eq_true, hc, Option.any_some] at h
  exact h.1.2

end Name

/-! ## Modifiers -/

namespace Modifiers

/-- No role and no feature is empty. -/
def Proper (m : Modifiers) : Prop :=
  [] ∉ m.roles ∧ [] ∉ m.features

theorem proper_add {m n : Modifiers} {c : Clause} (hm : m.Proper) (h : m.add c = .ok n) :
    n.Proper := by
  unfold add at h
  dsimp only at h
  have hitems := Text.nil_notMem_items c.body
  split at h
  · cases h
  · split at h
    · obtain rfl := Except.ok.inj h
      exact ⟨by simpa using ⟨hm.1, hitems⟩, hm.2⟩
    · obtain rfl := Except.ok.inj h
      exact ⟨hm.1, by simpa using ⟨hm.2, hitems⟩⟩

theorem proper_foldlM {cs : List Clause} {m n : Modifiers} (hm : m.Proper)
    (h : cs.foldlM add m = .ok n) : n.Proper := by
  induction cs generalizing m with
  | nil =>
    obtain rfl : m = n := Except.ok.inj h
    exact hm
  | cons c cs ih =>
    rw [List.foldlM_cons, bind_eq_ok] at h
    obtain ⟨next, hnext, h⟩ := h
    exact ih (proper_add hm hnext) h

theorem proper_of_read {t : Text} {m : Modifiers} (h : read t = .ok m) : m.Proper := by
  unfold read at h
  dsimp only at h
  split at h
  · cases h
  · exact proper_foldlM ⟨List.not_mem_nil, List.not_mem_nil⟩ h

end Modifiers

/-! ## Children -/

namespace Child

/-- The feature in front of a child's name is not empty. -/
theorem features_of_parts {header : Text} {kind : EntityKind} {name : Text}
    {features : List Text} {rest : Text} (h : parts header = .ok (kind, name, features, rest)) :
    [] ∉ features := by
  unfold parts at h
  dsimp only at h
  split at h
  · cases h
  · next hfirst =>
    split at h
    · split at h
      · cases h
      · obtain ⟨-, -, rfl, -⟩ := Prod.mk.injEq .. ▸ Except.ok.inj h
        simp
    · split at h
      · cases h
        simp
      · cases h
        simpa using Ne.symm hfirst

theorem proper_of_read {content : Text} {c : Child} (h : read content = .ok c) :
    Name.isValid c.name = true ∧ c.modifiers.Proper := by
  unfold read at h
  split at h
  · cases h
  · rw [bind_eq_ok] at h
    obtain ⟨⟨kind, name, features, rest⟩, hparts, h⟩ := h
    obtain ⟨_, hcheck, h⟩ := bind_eq_ok.mp h
    obtain ⟨modifiers, hmodifiers, h⟩ := bind_eq_ok.mp h
    obtain rfl := Except.ok.inj h
    have hproper := Modifiers.proper_of_read hmodifiers
    have hfeatures := features_of_parts hparts
    exact ⟨Name.isValid_of_check hcheck, hproper.1, by simpa using ⟨hfeatures, hproper.2⟩⟩

end Child

/-! ## Definitions -/

namespace Definition

/-- The name of a definition is one, and what it lists is not empty. -/
def Proper : Definition → Prop
  | .intent name features => Name.isValid name = true ∧ [] ∉ features
  | .typed _ name modifiers _ => Name.isValid name = true ∧ modifiers.Proper
  | .separated name modifiers _ => Name.isValid name = true ∧ modifiers.Proper

theorem proper_of_readIntent {rest : Text} {body : Option Text} {d : Definition}
    (h : readIntent rest body = .ok d) : d.Proper := by
  unfold readIntent at h
  obtain ⟨⟨name, tail⟩, _, h⟩ := bind_eq_ok.mp h
  obtain ⟨_, h⟩ := ite_throw_eq_ok.mp h
  obtain ⟨_, hcheck, h⟩ := bind_eq_ok.mp h
  obtain ⟨modifiers, hmodifiers, h⟩ := bind_eq_ok.mp h
  obtain ⟨_, h⟩ := ite_throw_eq_ok.mp h
  obtain ⟨_, h⟩ := ite_throw_eq_ok.mp h
  obtain rfl := Except.ok.inj h
  exact ⟨Name.isValid_of_check hcheck, (Modifiers.proper_of_read hmodifiers).2⟩

theorem proper_of_readTyped {kind : EntityKind} {rest : Text} {body : Option Text}
    {d : Definition} (h : readTyped kind rest body = .ok d) : d.Proper := by
  unfold readTyped at h
  obtain ⟨⟨written, tail⟩, _, h⟩ := bind_eq_ok.mp h
  obtain ⟨_, h⟩ := ite_throw_eq_ok.mp h
  obtain ⟨_, hcheck, h⟩ := bind_eq_ok.mp h
  obtain ⟨_, h⟩ := ite_throw_eq_ok.mp h
  obtain ⟨modifiers, hmodifiers, h⟩ := bind_eq_ok.mp h
  obtain rfl := Except.ok.inj h
  exact ⟨Name.isValid_of_check hcheck, Modifiers.proper_of_read hmodifiers⟩

theorem proper_of_readSeparated {header : Text} {body : Option Text} {d : Definition}
    (h : readSeparated header body = .ok d) : d.Proper := by
  unfold readSeparated at h
  obtain ⟨⟨name, tail⟩, _, h⟩ := bind_eq_ok.mp h
  obtain ⟨_, hcheck, h⟩ := bind_eq_ok.mp h
  obtain ⟨modifiers, hmodifiers, h⟩ := bind_eq_ok.mp h
  obtain ⟨_, h⟩ := ite_throw_eq_ok.mp h
  obtain rfl := Except.ok.inj h
  exact ⟨Name.isValid_of_check hcheck, Modifiers.proper_of_read hmodifiers⟩

theorem proper_of_read {t : Text} {d : Definition} (h : read t = .ok d) : d.Proper := by
  unfold read at h
  dsimp only at h
  split at h
  · exact proper_of_readIntent h
  · split at h
    · exact proper_of_readTyped h
    · exact proper_of_readSeparated h

end Definition

namespace Body

/-- A body says something that entities of kind `kind` can have. -/
def Fits (kind : EntityKind) : Body → Prop
  | .nothing => True
  | .block => kind = .ml ∨ kind = .list ∨ kind = .phraseList
  | .pattern _ => kind = .regex
  | .parts names => kind = .composite ∧ [] ∉ names
  | .phrases words => kind = .phraseList ∧ [] ∉ words

theorem fits_of_read {kind : EntityKind} {name : Text} {body : Option Text} {b : Body}
    (h : read kind name body = .ok b) : b.Fits kind := by
  cases body with
  | none =>
    obtain rfl := Except.ok.inj h
    trivial
  | some body =>
    unfold read at h
    dsimp only at h
    cases kind with
    | ml | list | prebuilt | patternAny =>
      dsimp only at h
      split at h
      · obtain rfl := Except.ok.inj h
        simp [Fits]
      · cases h
    | phraseList =>
      dsimp only at h
      split at h
      · obtain rfl := Except.ok.inj h
        simp [Fits]
      · obtain rfl := Except.ok.inj h
        exact ⟨rfl, Text.nil_notMem_items body⟩
    | regex =>
      dsimp only at h
      split at h
      · obtain rfl := Except.ok.inj h
        trivial
      · split at h
        · obtain rfl := Except.ok.inj h
          rfl
        · cases h
    | composite =>
      dsimp only at h
      split at h
      · next names _ =>
        obtain rfl := Except.ok.inj h
        exact ⟨rfl, Text.nil_notMem_items names⟩
      · cases h

end Body

/-! ## Mentions -/

namespace Mention

/-- Neither the name of an entity nor its role is empty. -/
def Proper : Mention → Prop
  | .label name => name ≠ []
  | .reference target => target.name ≠ [] ∧ target.role ≠ some []

theorem proper_of_target {name : Text} {role : Option Text} {fault : Fault} {m : Mention}
    (h : (if name = [] ∨ role = some [] then Except.error fault
      else .ok (reference ⟨name, role⟩)) = .ok m) : m.Proper := by
  split at h
  · cases h
  · next hproper =>
    obtain rfl := Except.ok.inj h
    exact not_or.mp hproper

theorem proper_of_readSpan {span : Text} {m : Mention} (h : read span = .ok m) : m.Proper := by
  unfold read at h
  dsimp only at h
  split at h
  · cases h
  · split at h
    · split at h
      · cases h
      · next hname =>
        split at h
        · cases h
        · obtain rfl := Except.ok.inj h
          exact hname
    · split at h
      · exact proper_of_target h
      · exact proper_of_target h

theorem proper_of_scan {utterance : Text} {span : Option Text} {t : Text} {ms : List Mention}
    (h : scan utterance span t = .ok ms) : ∀ m ∈ ms, m.Proper := by
  fun_induction scan utterance span t generalizing ms with
  | case1 =>
    obtain rfl := Except.ok.inj h
    simp
  | case2 => cases h
  | case3 rest ih => exact ih h
  | case4 => cases h
  | case5 c rest _ _ ih => exact ih h
  | case6 => cases h
  | case7 span rest _ ih =>
    obtain ⟨mention, hmention, h⟩ := bind_eq_ok.mp h
    obtain ⟨others, hothers, h⟩ := bind_eq_ok.mp h
    obtain rfl := Except.ok.inj h
    intro m hm
    rcases List.mem_cons.mp hm with rfl | hm
    · exact proper_of_readSpan hmention
    · exact ih hothers m hm
  | case8 span c rest _ _ ih => exact ih h

theorem proper_of_all {utterance : Text} {ms : List Mention} (h : all utterance = .ok ms) :
    utterance ≠ [] ∧ ∀ m ∈ ms, m.Proper := by
  unfold all at h
  split at h
  · cases h
  · next hne => exact ⟨hne, proper_of_scan h⟩

theorem ne_nil_of_mem_labels {ms : List Mention} (h : ∀ m ∈ ms, m.Proper) : [] ∉ labels ms := by
  intro hmem
  obtain ⟨m, hm, hlabel⟩ := List.mem_filterMap.mp hmem
  cases m with
  | label name =>
    obtain rfl := Option.some.inj hlabel
    exact h _ hm rfl
  | reference target => cases hlabel

theorem proper_of_mem_references {ms : List Mention} (h : ∀ m ∈ ms, m.Proper) :
    ∀ r ∈ references ms, r.name ≠ [] ∧ r.role ≠ some [] := by
  intro r hmem
  obtain ⟨m, hm, href⟩ := List.mem_filterMap.mp hmem
  cases m with
  | label name => cases href
  | reference target =>
    obtain rfl := Option.some.inj href
    exact h _ hm

end Mention

/-! ## Lines -/

theorem LineForm.proper_of_definition {l : Text} {d : Definition}
    (h : ofLine l = .definition (.ok d)) : d.Proper := by
  obtain ⟨declared, hread⟩ := (Line.of_definition h).2.2.2
  exact Definition.proper_of_read hread.symm

end LuServer
