/-
# Names in the order of the document

The names that a model gives are distinct, each at the place where it first stands: the names of
the entities of the wanted kinds, and then, if a pattern can stand for an entity, the names that
only patterns mention.  A model has its entities and its mentions in the order of the lines, so
what the first lines of a document declare comes before what the later ones do.

* `appendNew_eq`, `appendNew_nil_left`: growing a list by new members is adding, each once, those
  that it does not have.
* `Model.namesOfKinds`, `Model.mentionedNames`, `Model.entityNames_eq`: the names that a model gives.
* `Model.Before`: a model whose entities and mentions come first in another.
* `before_of_parse`: a model begins with what the first lines declare.
-/
import LuServer.Proofs.Draft.Growth
import Mathlib.Data.List.Induction

namespace LuServer

/-! ## Members without repetition -/

section Repetition

variable {α : Type} [BEq α] [LawfulBEq α]

theorem eraseDups_concat [DecidableEq α] (xs : List α) (x : α) :
    (xs ++ [x]).eraseDups = if x ∈ xs then xs.eraseDups else xs.eraseDups ++ [x] := by
  rw [List.eraseDups_append, List.removeAll]
  split
  · next hx => simp [hx]
  · next hx => simp [hx, List.eraseDups_cons]

/-- A list grows by the members that it does not have, each once, where it first stands. -/
theorem appendNew_eq [DecidableEq α] (xs ys : List α) :
    appendNew xs ys = xs ++ (ys.filter (· ∉ xs)).eraseDups := by
  induction ys using List.reverseRecOn with
  | nil => simp
  | append_singleton ys y ih =>
    rw [appendNew_append, appendNew_cons, appendNew_nil, List.filter_append]
    by_cases hxs : y ∈ xs
    · simp [hxs, ih]
    · have hkept : [y].filter (· ∉ xs) = [y] := by simp [hxs]
      rw [hkept, eraseDups_concat]
      by_cases hys : y ∈ ys
      · rw [if_pos (mem_appendNew.mpr (.inr hys)), ih, if_pos (by simp [hxs, hys])]
      · rw [if_neg (by simp [hxs, hys]), ih, if_neg (by simp [hys]), List.append_assoc]

/-- Growing a list from nothing leaves each member where it first stands. -/
theorem appendNew_nil_left [DecidableEq α] (xs : List α) : appendNew [] xs = xs.eraseDups := by
  rw [appendNew_eq, List.nil_append, List.filter_eq_self.mpr (by simp)]

/-- Lists without a common member are freed of repetitions one by one. -/
theorem eraseDups_append_of_disjoint {xs ys : List α} (h : ∀ y ∈ ys, y ∉ xs) :
    (xs ++ ys).eraseDups = xs.eraseDups ++ ys.eraseDups := by
  have hkept : ys.removeAll xs = ys := by
    refine List.filter_eq_self.mpr ?_
    intro y hy
    simp [h y hy]
  rw [List.eraseDups_append, hkept]

end Repetition

namespace Model

/-! ## The names that a model gives -/

/-- The names of the entities of these kinds, one for each entity. -/
def namesOfKinds (m : Model) (kinds : List EntityKind) : List Text :=
  (m.entities.filter fun e => e.kind ∈ kinds).map Entity.name

/-- The names in patterns that no entity has, one for each mention. -/
def mentionedNames (m : Model) : List Text :=
  (m.patternReferences.filter fun r => ∀ e ∈ m.entities, e.name ≠ r.name).map PatternReference.name

theorem mem_mentionedNames {m : Model} {name : Text} :
    name ∈ m.mentionedNames ↔
      (∃ r ∈ m.patternReferences, r.name = name) ∧ ∀ e ∈ m.entities, e.name ≠ name := by
  simp only [mentionedNames, List.mem_map, List.mem_filter, decide_eq_true_eq]
  constructor
  · rintro ⟨r, ⟨hr, hnone⟩, rfl⟩
    exact ⟨⟨r, hr, rfl⟩, hnone⟩
  · rintro ⟨⟨r, hr, rfl⟩, hnone⟩
    exact ⟨r, ⟨hr, hnone⟩, rfl⟩

/-- The references that count as entities are those to names that no entity has. -/
theorem undefinedReferences_eq (m : Model) :
    m.undefinedReferences
      = m.patternReferences.filter fun r => ∀ e ∈ m.entities, e.name ≠ r.name := by
  rw [undefinedReferences]
  congr 1
  funext r
  rw [Bool.eq_iff_iff, Bool.not_eq_true', ← Bool.not_eq_true, defines_iff]
  simp

theorem undefinedReferences_names (m : Model) :
    m.undefinedReferences.map PatternReference.name = m.mentionedNames := by
  rw [undefinedReferences_eq, mentionedNames]

/-- The names that a model gives, each once: those of entities, and those that are only
mentioned. -/
theorem entityNames_eq (m : Model) (kinds : List EntityKind) :
    m.entityNames kinds
      = (m.namesOfKinds kinds).eraseDups
        ++ if .patternAny ∈ kinds then m.mentionedNames.eraseDups else [] := by
  have hdefined : (m.entities.filter fun e => kinds.contains e.kind).map Entity.name
      = m.namesOfKinds kinds := by
    simp [namesOfKinds, List.contains_eq_mem]
  have hdisjoint : ∀ name ∈ m.mentionedNames, name ∉ m.namesOfKinds kinds := by
    intro name hname hdefined
    obtain ⟨e, he, rfl⟩ := List.mem_map.mp hdefined
    exact (mem_mentionedNames.mp hname).2 e (List.mem_filter.mp he).1 rfl
  rw [entityNames, ← appendNew_append, appendNew_nil_left, hdefined, undefinedReferences_names]
  by_cases hany : EntityKind.patternAny ∈ kinds
  · rw [if_pos hany, if_pos (List.contains_iff_mem.mpr hany), eraseDups_append_of_disjoint hdisjoint]
  · rw [if_neg hany, if_neg (mt List.contains_iff_mem.mp hany), List.append_nil, List.append_nil]

theorem nodup_entityNames (m : Model) (kinds : List EntityKind) : (m.entityNames kinds).Nodup := by
  rw [entityNames]
  exact nodup_appendNew (nodup_appendNew List.nodup_nil)

/-! ## The order of the lines -/

/-- The entities and the mentions of `m` come first in `n`. -/
structure Before (m n : Model) : Prop where
  entities : m.entities.map Entity.key <+: n.entities.map Entity.key
  mentions : m.patternReferences <+: n.patternReferences

end Model

/-- **A model is in the order of the lines**: it begins with what the first lines declare. -/
theorem before_of_parse {text culture : Text} {m : Model} (h : parse text culture = .ok m)
    (k : Nat) : ((Draft.start culture).after (text.lines.take k)).model.Before m := by
  obtain ⟨-, rfl⟩ := parse_eq_ok_iff.mp h
  have hgrown := (Draft.extends_after ((Draft.start culture).after (text.lines.take k))
    (text.lines.drop k)).trans (Draft.extends_finish _)
  rw [← Draft.after_append, List.take_append_drop] at hgrown
  exact ⟨hgrown.entities, hgrown.mentions⟩

end LuServer
