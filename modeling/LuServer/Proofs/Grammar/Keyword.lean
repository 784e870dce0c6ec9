/-
# Keywords

The keywords of the kinds of entities are words of letters and periods.  A line that starts with
`@` and a keyword therefore defines an entity of the kind, whatever comes after it, if it can be
read at all: none of the signs at which the line is cut is in the keyword.

* `EntityKind.isDotted_of_ofKeyword?`, `EntityKind.asciiLower_ne_intent`: what keywords are.
* `Definition.begins_splitBody`: the first word is not in the body.
* `Definition.read_of_begins`: what is defined after a keyword.
-/
import LuServer.Proofs.Grammar.Proper
import LuServer.Proofs.Text.Word

namespace LuServer

namespace EntityKind

theorem isDotted_spellings :
    ∀ s ∈ spellings.map Prod.fst, s ≠ [] ∧ s.all Text.isDotted = true := by
  decide +kernel

/-- A keyword has letters and periods only. -/
theorem isDotted_of_ofKeyword? {word : Text} (h : (ofKeyword? word).isSome = true) :
    word ≠ [] ∧ ∀ c ∈ word, Text.isDotted c = true := by
  have hmem : word.asciiLower ∈ spellings.map Prod.fst := by
    rw [ofKeyword?, List.lookup_isSome_iff] at h
    obtain ⟨s, hs, heq⟩ := h
    exact List.mem_map.mpr ⟨s, hs, (eq_of_beq heq).symm⟩
  obtain ⟨hne, hall⟩ := isDotted_spellings _ hmem
  constructor
  · rintro rfl
    exact hne rfl
  · intro c hc
    exact Text.isDotted_of_toLower (List.all_eq_true.mp hall _ (List.mem_map_of_mem hc))

theorem asciiLower_ne_intent {word : Text} (h : (ofKeyword? word).isSome = true) :
    word.asciiLower ≠ "intent".toList := by
  intro hintent
  rw [ofKeyword?, hintent] at h
  revert h
  decide

theorem ne_intent_of_ofKeyword? {word : Text} (h : (ofKeyword? word).isSome = true) :
    word ≠ "intent".toList := by
  rintro rfl
  exact asciiLower_ne_intent h (by decide)

end EntityKind

/-! ## Definitions -/

namespace Definition

/-- The first word of a definition is not in its body. -/
theorem begins_splitBody {word t : Text} (h : word.Begins t) (hne : word ≠ [])
    (hword : ∀ c ∈ word, Text.isDotted c = true) : word.Begins (splitBody t).1 := by
  have hblank : ∀ c ∈ word, Text.isBlank c = false :=
    fun c hc => Text.isBlank_of_isDotted (hword c hc)
  have hsign : ∀ c, Text.isDotted c = false → c ∉ word := by
    intro c hc hmem
    rw [hword c hmem] at hc
    cases hc
  unfold splitBody
  split
  · next header body hcut =>
    rw [(Text.cutAt_eq_some hcut).1] at h
    exact (h.of_cut (hsign '=' (by decide))).trim hne hblank
  · split
    · next header hcolon =>
      rw [Text.eq_append_of_dropLast? hcolon] at h
      exact (h.of_cut (hsign ':' (by decide))).trim hne hblank
    · exact h

theorem typed_of_readTyped {kind : EntityKind} {rest : Text} {body : Option Text}
    {d : Definition} (h : readTyped kind rest body = .ok d) :
    ∃ name modifiers, d = .typed kind name modifiers body := by
  unfold readTyped at h
  obtain ⟨⟨written, tail⟩, _, h⟩ := bind_eq_ok.mp h
  obtain ⟨_, h⟩ := ite_throw_eq_ok.mp h
  obtain ⟨_, _, h⟩ := bind_eq_ok.mp h
  obtain ⟨_, h⟩ := ite_throw_eq_ok.mp h
  obtain ⟨modifiers, _, h⟩ := bind_eq_ok.mp h
  exact ⟨_, modifiers, (Except.ok.inj h).symm⟩

/-- After a keyword stands an entity of its kind. -/
theorem read_of_begins {word t : Text} {kind : EntityKind} (h : word.Begins t)
    (hkind : EntityKind.ofKeyword? word = some kind) {d : Definition} (hread : read t = .ok d) :
    ∃ name modifiers, d = .typed kind name modifiers (splitBody t).2 := by
  have hsome : (EntityKind.ofKeyword? word).isSome = true := by rw [hkind]; rfl
  obtain ⟨hne, hword⟩ := EntityKind.isDotted_of_ofKeyword? hsome
  have hfirst : (splitBody t).1.nextWord.1 = word :=
    (begins_splitBody h hne hword).nextWord hne fun c hc => Text.isBlank_of_isDotted (hword c hc)
  unfold read at hread
  dsimp only at hread
  rw [hfirst, if_neg (EntityKind.asciiLower_ne_intent hsome), hkind] at hread
  exact typed_of_readTyped hread

/-- A definition with an equals sign has a body. -/
theorem splitBody_of_mem {t : Text} (h : '=' ∈ t) : (splitBody t).2.isSome = true := by
  unfold splitBody
  cases hcut : t.cutAt '=' with
  | none => exact absurd h (Text.cutAt_eq_none.mp hcut)
  | some parts => rfl

end Definition

end LuServer
