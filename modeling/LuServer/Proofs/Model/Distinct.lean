/-
# Answers without repetition

Asked for the names or the roles of entities of some kinds, a model gives each of them once, where
it first stands: first those of the entities of these kinds and then, if a pattern can stand for
an entity, those of the mentions whose name no entity has.

* `FirstOccurrences`: a list without its repetitions, said of the places of its members.
* `FirstOccurrences.unique`, `eq_appendNew_iff`: there is one such list, and it is the one that
  grows by new members.
* `Model.rolesOfKinds`, `Model.mentionedRoles`: the roles that entities have, and those of names
  that are only mentioned.
* `Model.answers_without_repetition`: what a model gives.
-/
import LuServer.Proofs.Model.Names
import Mathlib.Data.List.Sort

namespace LuServer

/-! ## First occurrences -/

section FirstOccurrences

variable {α : Type} [DecidableEq α]

/-- `ys` has the members of `xs`, in the order of the places where they first stand in `xs`. -/
structure FirstOccurrences (xs ys : List α) : Prop where
  mem_iff : ∀ a, a ∈ ys ↔ a ∈ xs
  inOrder : ys.Pairwise fun a b => xs.idxOf a < xs.idxOf b

theorem FirstOccurrences.nodup {xs ys : List α} (h : FirstOccurrences xs ys) : ys.Nodup := by
  refine h.inOrder.imp ?_
  rintro a b hlt rfl
  exact Nat.lt_irrefl _ hlt

/-- The members and their places leave no choice. -/
theorem FirstOccurrences.unique {xs ys zs : List α} (hys : FirstOccurrences xs ys)
    (hzs : FirstOccurrences xs zs) : ys = zs := by
  have hperm : ys.Perm zs := by
    rw [List.perm_ext_iff_of_nodup hys.nodup hzs.nodup]
    intro a
    rw [hys.mem_iff, hzs.mem_iff]
  refine hperm.eq_of_pairwise ?_ hys.inOrder hzs.inOrder
  intro a b _ _ hab hba
  exact absurd hba (Nat.lt_asymm hab)

theorem firstOccurrences_appendNew (xs : List α) : FirstOccurrences xs (appendNew [] xs) := by
  refine ⟨by simp, ?_⟩
  induction xs using List.reverseRecOn with
  | nil => exact .nil
  | append_singleton xs x ih =>
    have hplace {a : α} (ha : a ∈ appendNew [] xs) : (xs ++ [x]).idxOf a = xs.idxOf a :=
      List.idxOf_append_of_mem (by simpa using ha)
    have hkept : (appendNew [] xs).Pairwise
        fun a b => (xs ++ [x]).idxOf a < (xs ++ [x]).idxOf b := by
      refine ih.imp_of_mem ?_
      intro a b ha hb hlt
      rwa [hplace ha, hplace hb]
    rw [appendNew_append, appendNew_cons, appendNew_nil]
    split
    · exact hkept
    · next hnew =>
      -- the new member stands behind all others
      refine List.pairwise_append.mpr ⟨hkept, List.pairwise_singleton _ _, ?_⟩
      intro a ha b hb
      obtain rfl := List.mem_singleton.mp hb
      have hold : a ∈ xs := by simpa using ha
      rw [hplace ha, List.idxOf_append_of_notMem (by simpa using hnew)]
      exact Nat.lt_of_lt_of_le (List.idxOf_lt_length_of_mem hold) (Nat.le_add_right _ _)

/-- Growing a list from nothing gives the first occurrences and nothing else does. -/
theorem eq_appendNew_iff {xs ys : List α} : ys = appendNew [] xs ↔ FirstOccurrences xs ys := by
  constructor
  · rintro rfl
    exact firstOccurrences_appendNew xs
  · intro h
    exact h.unique (firstOccurrences_appendNew xs)

end FirstOccurrences

namespace Model

/-! ## What a model gives -/

/-- The roles of the entities of these kinds, as often as they are given. -/
def rolesOfKinds (m : Model) (kinds : List EntityKind) : List Text :=
  (m.entities.filter fun e => e.kind ∈ kinds).flatMap Entity.roles

/-- The roles in patterns of names that no entity has, one for each mention with a role. -/
def mentionedRoles (m : Model) : List Text :=
  (m.patternReferences.filter fun r => ∀ e ∈ m.entities, e.name ≠ r.name).filterMap
    PatternReference.role

theorem entityNames_eq_appendNew (m : Model) (kinds : List EntityKind) :
    m.entityNames kinds
      = appendNew [] (m.namesOfKinds kinds
          ++ if .patternAny ∈ kinds then m.mentionedNames else []) := by
  simp only [entityNames, namesOfKinds, undefinedReferences_names, appendNew_append,
    List.contains_eq_mem, decide_eq_true_eq]

theorem roles_eq_appendNew (m : Model) (kinds : List EntityKind) :
    m.roles kinds
      = appendNew [] (m.rolesOfKinds kinds
          ++ if .patternAny ∈ kinds then m.mentionedRoles else []) := by
  simp only [roles, rolesOfKinds, mentionedRoles, undefinedReferences_eq, appendNew_append,
    List.contains_eq_mem, decide_eq_true_eq]

/-- **A model repeats no answer.**  The names that it gives for some kinds are the first
occurrences among the names of the entities of these kinds, followed, if pattern.any is one of
them, by the names in patterns that no entity of any kind has.  The same holds of the roles. -/
theorem answers_without_repetition (m : Model) (kinds : List EntityKind) :
    (m.entityNames kinds).Nodup ∧ (m.roles kinds).Nodup ∧
    (∀ names, names = m.entityNames kinds ↔
      FirstOccurrences (m.namesOfKinds kinds
        ++ if .patternAny ∈ kinds then m.mentionedNames else []) names) ∧
    ∀ roles, roles = m.roles kinds ↔
      FirstOccurrences (m.rolesOfKinds kinds
        ++ if .patternAny ∈ kinds then m.mentionedRoles else []) roles := by
  rw [entityNames_eq_appendNew, roles_eq_appendNew]
  refine ⟨nodup_appendNew List.nodup_nil, nodup_appendNew List.nodup_nil, ?_, ?_⟩
  · intro names
    exact eq_appendNew_iff
  · intro roles
    exact eq_appendNew_iff

-- an entity of another kind keeps its name from counting as mentioned only
example :
    let m : Model := {
      entities := [{ name := "city".toList, kind := .list, roles := ["origin".toList] }]
      patternReferences := [⟨"day".toList, none⟩, ⟨"city".toList, some "origin".toList⟩,
        ⟨"day".toList, some "start".toList⟩] }
    m.entityNames [.patternAny, .ml] = ["day".toList] ∧
      m.roles [.patternAny, .list] = ["origin".toList, "start".toList] := by
  decide

end Model

end LuServer
