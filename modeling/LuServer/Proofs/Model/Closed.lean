/-
# Closed models

A model is closed if every name has one definition and everything that is mentioned is
defined.  That is exactly what it takes for a model to have no problems, and so for a text
to have no diagnostics.

* `Model.Closed`: every name has one meaning, and nothing is missing.
* `Model.problems_eq_nil_iff`: a model has no problems exactly if it is closed.
* `diagnose_eq_nil_iff`: a text has no diagnostics exactly if it has a closed model.
* `clean_diagnostics_closed_model`: both, with what is reported of a model that is not closed.
-/
import LuServer.Diagnostic
import LuServer.Proofs.Draft.WellFormed
import LuServer.Proofs.Model.Problems

namespace LuServer

namespace Model

/-- Some entity has this name. -/
def Defined (m : Model) (name : Text) : Prop :=
  ∃ e ∈ m.entities, e.name = name

/-- Some entity with this name is not a phrase list. -/
def Labelable (m : Model) (name : Text) : Prop :=
  ∃ e ∈ m.entities, e.name = name ∧ e.kind ≠ .phraseList

/-- Names have one definition, and what is mentioned is defined. -/
structure Closed (m : Model) : Prop where
  names : (m.entities.map Entity.name).Nodup
  features : ∀ e ∈ m.entities, ∀ f ∈ e.features, f ≠ e.name ∧ m.Defined f
  parts : ∀ e ∈ m.entities, e.kind = .composite → ∀ c ∈ e.children, m.Defined c
  intentFeatures : ∀ i ∈ m.intents, ∀ f ∈ i.features, m.Defined f
  labels : ∀ l ∈ m.labels, m.Labelable l
  references : ∀ r ∈ m.references, m.Defined r

instance (m : Model) (name : Text) : Decidable (m.Defined name) :=
  inferInstanceAs (Decidable (∃ e ∈ m.entities, e.name = name))

instance (m : Model) (name : Text) : Decidable (m.Labelable name) :=
  inferInstanceAs (Decidable (∃ e ∈ m.entities, e.name = name ∧ e.kind ≠ .phraseList))

theorem defines_eq_false_iff {m : Model} {name : Text} :
    m.defines name = false ↔ ¬ m.Defined name := by
  rw [← Bool.not_eq_true, defines_iff, Defined]

theorem labelable_eq_false_iff {m : Model} {name : Text} :
    m.labelable name = false ↔ ¬ m.Labelable name := by
  rw [← Bool.not_eq_true, labelable, Labelable, List.any_eq_true]
  simp only [decide_eq_true_eq]

theorem mem_featureUses {m : Model} {name f : Text} :
    (name, f) ∈ m.featureUses ↔ ∃ e ∈ m.entities, e.name = name ∧ f ∈ e.features := by
  simp only [featureUses, List.mem_flatMap, List.mem_map, Prod.mk.injEq]
  constructor
  · rintro ⟨e, he, g, hg, rfl, rfl⟩
    exact ⟨e, he, rfl, hg⟩
  · rintro ⟨e, he, rfl, hf⟩
    exact ⟨e, he, f, hf, rfl, rfl⟩

theorem mem_intentFeatureUses {m : Model} {name f : Text} :
    (name, f) ∈ m.intentFeatureUses ↔ ∃ i ∈ m.intents, i.name = name ∧ f ∈ i.features := by
  simp only [intentFeatureUses, List.mem_flatMap, List.mem_map, Prod.mk.injEq]
  constructor
  · rintro ⟨i, hi, g, hg, rfl, rfl⟩
    exact ⟨i, hi, rfl, hg⟩
  · rintro ⟨i, hi, rfl, hf⟩
    exact ⟨i, hi, f, hf, rfl, rfl⟩

theorem mem_partUses {m : Model} {name c : Text} :
    (name, c) ∈ m.partUses ↔
      ∃ e ∈ m.entities, e.kind = .composite ∧ e.name = name ∧ c ∈ e.children := by
  rw [partUses, List.mem_flatMap]
  constructor
  · rintro ⟨e, he, h⟩
    by_cases hkind : e.kind = .composite
    · rw [if_pos hkind, List.mem_map] at h
      obtain ⟨d, hd, heq⟩ := h
      obtain ⟨rfl, rfl⟩ := Prod.mk.inj heq
      exact ⟨e, he, hkind, rfl, hd⟩
    · rw [if_neg hkind] at h
      cases h
  · rintro ⟨e, he, hkind, rfl, hc⟩
    refine ⟨e, he, ?_⟩
    rw [if_pos hkind]
    exact List.mem_map_of_mem hc

/-- A closed model gives no occasion for any problem. -/
theorem count_eq_zero_of_closed {m : Model} (h : m.Closed) (p : Problem) :
    m.problems.count p = 0 := by
  have hreport := m.accounted
  cases p with
  | conflictingKinds name kinds =>
    rw [hreport.conflict, if_neg]
    rintro ⟨htwice, -⟩
    have honce := List.nodup_iff_count_le_one.mp h.names name
    omega
  | selfFeature name =>
    rw [hreport.ownFeature, List.count_eq_zero, mem_featureUses]
    rintro ⟨e, he, rfl, hf⟩
    exact (h.features e he e.name hf).1 rfl
  | undefinedFeature f name =>
    rw [hreport.feature]
    split
    · next hwrong =>
      rw [List.count_eq_zero, mem_featureUses]
      rintro ⟨e, he, -, hf⟩
      exact defines_eq_false_iff.mp hwrong.2 (h.features e he f hf).2
    · rfl
  | undefinedPart name c =>
    rw [hreport.part]
    split
    · next hwrong =>
      rw [List.count_eq_zero, mem_partUses]
      rintro ⟨e, he, hkind, -, hc⟩
      exact defines_eq_false_iff.mp hwrong (h.parts e he hkind c hc)
    · rfl
  | undefinedIntentFeature f name =>
    rw [hreport.intentFeature]
    split
    · next hwrong =>
      rw [List.count_eq_zero, mem_intentFeatureUses]
      rintro ⟨i, hi, -, hf⟩
      exact defines_eq_false_iff.mp hwrong (h.intentFeatures i hi f hf)
    · rfl
  | undefinedLabel name =>
    rw [hreport.label]
    split
    · next hwrong =>
      rw [List.count_eq_zero]
      intro hl
      exact labelable_eq_false_iff.mp hwrong (h.labels name hl)
    · rfl
  | kindlessName name =>
    rw [hreport.kindless, if_neg]
    rintro ⟨hr, hwrong⟩
    exact defines_eq_false_iff.mp hwrong (h.references name hr)

/-- Whatever is missing in a model is counted among its problems. -/
theorem closed_of_count_eq_zero {m : Model} (h : ∀ p, m.problems.count p = 0) : m.Closed := by
  have hreport := m.accounted
  refine ⟨?_, ?_, ?_, ?_, ?_, ?_⟩
  · refine List.nodup_iff_count_le_one.mpr fun name => ?_
    have hnone := h (.conflictingKinds name (m.kindsOf name))
    rw [hreport.conflict] at hnone
    by_contra htwice
    rw [if_pos ⟨by omega, rfl⟩] at hnone
    cases hnone
  · intro e he f hf
    have hne : f ≠ e.name := by
      rintro rfl
      have hnone := h (.selfFeature e.name)
      rw [hreport.ownFeature, List.count_eq_zero] at hnone
      exact hnone (mem_featureUses.mpr ⟨e, he, rfl, hf⟩)
    refine ⟨hne, ?_⟩
    by_contra hwrong
    have hnone := h (.undefinedFeature f e.name)
    rw [hreport.feature, if_pos ⟨hne, defines_eq_false_iff.mpr hwrong⟩, List.count_eq_zero] at hnone
    exact hnone (mem_featureUses.mpr ⟨e, he, rfl, hf⟩)
  · intro e he hkind c hc
    by_contra hwrong
    have hnone := h (.undefinedPart e.name c)
    rw [hreport.part, if_pos (defines_eq_false_iff.mpr hwrong), List.count_eq_zero] at hnone
    exact hnone (mem_partUses.mpr ⟨e, he, hkind, rfl, hc⟩)
  · intro i hi f hf
    by_contra hwrong
    have hnone := h (.undefinedIntentFeature f i.name)
    rw [hreport.intentFeature, if_pos (defines_eq_false_iff.mpr hwrong),
      List.count_eq_zero] at hnone
    exact hnone (mem_intentFeatureUses.mpr ⟨i, hi, rfl, hf⟩)
  · intro l hl
    by_contra hwrong
    have hnone := h (.undefinedLabel l)
    rw [hreport.label, if_pos (labelable_eq_false_iff.mpr hwrong), List.count_eq_zero] at hnone
    exact hnone hl
  · intro r hr
    by_contra hwrong
    have hnone := h (.kindlessName r)
    rw [hreport.kindless, if_pos ⟨hr, defines_eq_false_iff.mpr hwrong⟩] at hnone
    cases hnone

/-- A model has no problems exactly if it is closed. -/
theorem problems_eq_nil_iff (m : Model) : m.problems = [] ↔ m.Closed := by
  constructor
  · intro h
    refine closed_of_count_eq_zero fun p => ?_
    rw [h, List.count_nil]
  · intro h
    rw [List.eq_nil_iff_forall_not_mem]
    exact fun p => List.count_eq_zero.mp (count_eq_zero_of_closed h p)

end Model

/-! ## Texts -/

/-- The model of a text is well-formed. -/
theorem wellFormed_of_parse {text culture : Text} {m : Model} (h : parse text culture = .ok m) :
    m.WellFormed := by
  obtain ⟨-, rfl⟩ := parse_eq_ok_iff.mp h
  exact Draft.wellFormed_finish (Draft.wellFormed_after (Draft.wellFormed_start culture) text.lines)

/-- A text is refused only for some line. -/
theorem ne_nil_of_parse {text culture : Text} {errors : List SyntaxError}
    (h : parse text culture = .error errors) : errors ≠ [] := by
  rw [parse] at h
  dsimp only at h
  split at h
  · cases h
  · next hne =>
    obtain rfl := Except.error.inj h
    exact hne

/-- A text that is not empty has no diagnostics exactly if it has a closed model. -/
theorem diagnose_eq_nil_iff {text : Text} (htext : text ≠ []) (culture : Text) :
    (diagnose text culture).value = [] ↔ ∃ m, parse text culture = .ok m ∧ m.Closed := by
  rw [diagnose, if_neg htext, Counted.value_bind, Counted.parse]
  dsimp only
  cases hparse : parse text culture with
  | error errors =>
    have hne := ne_nil_of_parse hparse
    simp [hne]
  | ok m =>
    simp only [Counted.value_pure, List.map_eq_nil_iff, m.problems_eq_nil_iff, Except.ok.injEq,
      exists_eq_left']

/-- **Clean diagnostics.**  A model has no problems exactly if it is closed, and what is not as
it should be is reported as often as `Model.Accounted` says.  So a text that is not empty has
no diagnostics exactly if it has a closed model, and then the children of its ml entities,
which no check looks at, are defined as well. -/
theorem clean_diagnostics_closed_model (text culture : Text) (htext : text ≠ []) :
    (∀ m : Model, (m.problems = [] ↔ m.Closed) ∧ m.Accounted) ∧
    ((diagnose text culture).value = [] ↔ ∃ m, parse text culture = .ok m ∧ m.Closed) ∧
    ((diagnose text culture).value = [] → ∀ m, parse text culture = .ok m →
      ∀ e ∈ m.entities, e.kind = .ml → ∀ c ∈ e.children, m.Defined c) := by
  refine ⟨fun m => ⟨m.problems_eq_nil_iff, m.accounted⟩, diagnose_eq_nil_iff htext culture, ?_⟩
  intro _ m hm
  exact (wellFormed_of_parse hm).childrenDefined

/-- A city that is only defined as the child of an ml entity is enough for the feature that
names it. -/
theorem clean_diagnostics_closed_model_city :
    let text : Text := "@ ml trip usesFeature city =\n- @ list city\n# Go\n- \x7btrip=on\x7d".toList
    let city : Text := "city".toList
    let trip : Entity :=
      { name := "trip".toList, kind := .ml, features := [city], children := [city] }
    let m : Model :=
      { intents := [{ name := "Go".toList, utterances := ["\x7btrip=on\x7d".toList] }]
        entities := [trip, { name := city, kind := .list }]
        labels := ["trip".toList] }
    text ≠ [] ∧ parse text [] = .ok m ∧ (diagnose text []).value = [] ∧ m.Defined city := by
  intro text city trip m
  have htext : text ≠ [] := by decide
  have hparse : parse text [] = .ok m := by rfl
  obtain ⟨-, hclean, hchildren⟩ := clean_diagnostics_closed_model text [] htext
  have hclosed : m.Closed := by
    refine ⟨?_, ?_, ?_, ?_, ?_, ?_⟩ <;> decide
  have hnone : (diagnose text []).value = [] := hclean.mpr ⟨m, hparse, hclosed⟩
  exact ⟨htext, hparse, hnone,
    hchildren hnone m hparse trip List.mem_cons_self rfl city List.mem_cons_self⟩

end LuServer
