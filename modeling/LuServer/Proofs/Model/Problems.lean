/-
# What the problems of a model are

The problems of a model are found by loops that remember what they have reported: one by
the names it has reported, one by the messages that have been given.  This file says what
they find.  Since no two checks can word a problem alike, a search among messages is a search
among problems, and both loops report each name once.

* `Problem.eq_of_message_kindlessName`: the message about a name without a kind belongs to
  that problem alone.
* `Model.foldl_addConflict`, `Model.foldl_addKindless`: what the two loops report.
* `Model.problems_eq`: the problems, one check after the other.
* `Model.Accounted`, `Model.accounted`: how often each problem is reported.
-/
import LuServer.Model.Problem
import Mathlib.Data.List.Count
import Mathlib.Data.List.Nodup
import Mathlib.Data.List.Perm.Basic

namespace LuServer

/-! ## Messages -/

namespace Problem

/-- The words that a message begins and ends with, whatever the names are. -/
def frame : Problem → String × String
  | conflictingKinds _ _ => ("Entity ", ")")
  | selfFeature _ => ("Entity ", " cannot use itself as a feature")
  | undefinedFeature _ _ => ("Feature ", " is not defined")
  | undefinedPart _ _ => ("Composite entity ", "")
  | undefinedIntentFeature _ _ => ("Feature ", " is not defined")
  | undefinedLabel _ => ("Utterance label ", "")
  | kindlessName _ => ("Entity ", " is never defined with a type")

theorem exists_message_eq (p : Problem) : ∃ t, p.message = p.frame.1 ++ t ++ p.frame.2 := by
  cases p with
  | conflictingKinds name kinds =>
    refine ⟨quoted name ++ (" is defined with conflicting types ("
      ++ ", ".intercalate (kinds.map fun k => String.ofList k.keyword)), ?_⟩
    simp only [← String.append_assoc]
    rfl
  | selfFeature name => exact ⟨quoted name, rfl⟩
  | undefinedFeature feature entity =>
    refine ⟨quoted feature ++ (" used by entity " ++ quoted entity), ?_⟩
    simp only [← String.append_assoc]
    rfl
  | undefinedPart composite part =>
    refine ⟨quoted composite ++ (" includes undefined entity " ++ quoted part), ?_⟩
    simp only [frame, ← String.append_assoc, String.append_empty]
    rfl
  | undefinedIntentFeature feature intent =>
    refine ⟨quoted feature ++ (" used by intent " ++ quoted intent), ?_⟩
    simp only [← String.append_assoc]
    rfl
  | undefinedLabel name =>
    refine ⟨"references undefined entity " ++ quoted name, ?_⟩
    simp only [frame, ← String.append_assoc, String.append_empty]
    rfl
  | kindlessName name => exact ⟨quoted name, rfl⟩

theorem frame_opens (p : Problem) : p.frame.1.toList <+: p.message.toList := by
  obtain ⟨t, ht⟩ := p.exists_message_eq
  rw [ht, String.toList_append, String.toList_append, List.append_assoc]
  exact List.prefix_append _ _

theorem frame_closes (p : Problem) : p.frame.2.toList <:+ p.message.toList := by
  obtain ⟨t, ht⟩ := p.exists_message_eq
  rw [ht, String.toList_append]
  exact List.suffix_append _ _

/-- Two problems with one message have comparable beginnings and comparable ends. -/
theorem frames_of_message {p q : Problem} (h : p.message = q.message) :
    (p.frame.1.toList <+: q.frame.1.toList ∨ q.frame.1.toList <+: p.frame.1.toList) ∧
      (p.frame.2.toList <:+ q.frame.2.toList ∨ q.frame.2.toList <:+ p.frame.2.toList) := by
  have hopens := p.frame_opens
  have hcloses := p.frame_closes
  rw [h] at hopens hcloses
  constructor
  · exact List.prefix_or_prefix_of_prefix hopens q.frame_opens
  · exact List.suffix_or_suffix_of_suffix hcloses q.frame_closes

theorem message_kindlessName_inj {name other : Text}
    (h : (kindlessName name).message = (kindlessName other).message) : name = other := by
  have hlist : ("Entity " ++ quoted name ++ " is never defined with a type").toList
      = ("Entity " ++ quoted other ++ " is never defined with a type").toList :=
    congrArg String.toList h
  simpa only [quoted, String.toList_append, List.append_cancel_right_eq, List.append_cancel_left_eq,
    String.toList_ofList] using hlist

/-- The message about a name without a kind belongs to that problem alone. -/
theorem eq_of_message_kindlessName {p : Problem} {name : Text}
    (h : p.message = (kindlessName name).message) : p = kindlessName name := by
  have hframes := frames_of_message h
  cases p with
  | kindlessName other => rw [message_kindlessName_inj h]
  | conflictingKinds other kinds => exact absurd hframes.2 (by simp only [frame]; decide)
  | selfFeature other => exact absurd hframes.2 (by simp only [frame]; decide)
  | undefinedFeature feature entity => exact absurd hframes.1 (by simp only [frame]; decide)
  | undefinedPart composite part => exact absurd hframes.1 (by simp only [frame]; decide)
  | undefinedIntentFeature feature intent => exact absurd hframes.1 (by simp only [frame]; decide)
  | undefinedLabel other => exact absurd hframes.1 (by simp only [frame]; decide)

theorem mem_map_message_kindlessName {found : List Problem} {name : Text} :
    (kindlessName name).message ∈ found.map message ↔ kindlessName name ∈ found := by
  constructor
  · intro h
    obtain ⟨p, hp, hmessage⟩ := List.mem_map.mp h
    rwa [← eq_of_message_kindlessName hmessage]
  · exact List.mem_map_of_mem

end Problem

/-! ## The two loops -/

namespace Model

/-- The report of a conflict. -/
def conflictOf (m : Model) (name : Text) : Problem :=
  .conflictingKinds name (m.kindsOf name)

/-- Whether a name is defined more than once. -/
def isConflicting (m : Model) (name : Text) : Bool :=
  1 < (m.kindsOf name).length

theorem length_kindsOf (m : Model) (name : Text) :
    (m.kindsOf name).length = (m.entities.map Entity.name).count name := by
  rw [kindsOf, List.length_map, List.count, List.countP_map, List.countP_eq_length_filter]
  refine congrArg List.length (List.filter_congr ?_)
  intro e _
  rw [Function.comp_apply, beq_eq_decide]

/-- The loop over the entities reports each conflicting name where it first occurs. -/
theorem foldl_addConflict (m : Model) (es : List Entity) (reported : List Text) :
    es.foldl m.addConflict ⟨reported, reported.map m.conflictOf⟩
      = ⟨appendNew reported ((es.map Entity.name).filter m.isConflicting),
          (appendNew reported ((es.map Entity.name).filter m.isConflicting)).map m.conflictOf⟩ := by
  induction es generalizing reported with
  | nil => rfl
  | cons e es ih =>
    rw [List.foldl_cons, List.map_cons, addConflict]
    by_cases hreported : e.name ∈ reported
    · rw [if_pos hreported, ih, List.filter_cons]
      split
      · rw [appendNew_cons, if_pos hreported]
      · rfl
    · rw [if_neg hreported]
      by_cases hconflict : 1 < (m.kindsOf e.name).length
      · have hnew := ih (reported ++ [e.name])
        rw [List.map_append, List.map_singleton] at hnew
        have hpos : m.isConflicting e.name = true := decide_eq_true hconflict
        rw [if_pos hconflict, List.filter_cons_of_pos hpos, appendNew_cons, if_neg hreported]
        exact hnew
      · have hneg : ¬ m.isConflicting e.name = true := by simpa [isConflicting] using hconflict
        rw [if_neg hconflict, ih, List.filter_cons_of_neg hneg]

theorem conflicts_eq (m : Model) :
    m.conflicts
      = (appendNew [] ((m.entities.map Entity.name).filter m.isConflicting)).map m.conflictOf := by
  rw [conflicts]
  exact congrArg Conflicts.problems (m.foldl_addConflict m.entities [])

/-- The loop over the names of definitions without a kind reports each name that is not
defined once, at the end of what others have found. -/
theorem foldl_addKindless (m : Model) {found : List Problem}
    (hfound : ∀ name, .kindlessName name ∉ found) (names reported : List Text) :
    names.foldl m.addKindless (found ++ reported.map .kindlessName)
      = found ++ (appendNew reported (names.filter fun n => !m.defines n)).map .kindlessName := by
  induction names generalizing reported with
  | nil => rfl
  | cons name names ih =>
    have hmem : (Problem.kindlessName name).message
        ∈ (found ++ reported.map Problem.kindlessName).map Problem.message ↔ name ∈ reported := by
      rw [Problem.mem_map_message_kindlessName, List.mem_append]
      simp [hfound name]
    rw [List.foldl_cons, addKindless]
    by_cases hdefined : m.defines name = true
    · rw [if_pos (Or.inl hdefined), ih, List.filter_cons_of_neg (by simp [hdefined])]
    · rw [List.filter_cons_of_pos (by simpa using hdefined), appendNew_cons]
      by_cases hreported : name ∈ reported
      · rw [if_pos (Or.inr (hmem.mpr hreported)), if_pos hreported, ih]
      · have hnew := ih (reported ++ [name])
        rw [List.map_append, List.map_singleton, ← List.append_assoc] at hnew
        rw [if_neg (not_or.mpr ⟨hdefined, fun h => hreported (hmem.mp h)⟩), if_neg hreported]
        exact hnew

/-! ## One check after the other -/

/-- The part of a model that a problem is found in. -/
inductive Part where
  | names
  | entities
  | intents
  | labels
  | references
deriving DecidableEq, Repr

/-- Each problem is found in one part only. -/
def part : Problem → Part
  | .conflictingKinds _ _ => .names
  | .selfFeature _ => .entities
  | .undefinedFeature _ _ => .entities
  | .undefinedPart _ _ => .entities
  | .undefinedIntentFeature _ _ => .intents
  | .undefinedLabel _ => .labels
  | .kindlessName _ => .references

/-- The names of definitions without a kind that no entity has, each once. -/
def kindless (m : Model) : List Text :=
  appendNew [] (m.references.filter fun n => !m.defines n)

/-- The problems found in a part. -/
def problemsIn (m : Model) : Part → List Problem
  | .names => m.conflicts
  | .entities => m.entities.flatMap m.entityProblems
  | .intents => m.intents.flatMap m.intentProblems
  | .labels => m.labelProblems
  | .references => m.kindless.map .kindlessName

theorem part_of_mem_entityProblems {m : Model} {e : Entity} {p : Problem}
    (h : p ∈ m.entityProblems e) : part p = .entities := by
  rw [entityProblems, List.mem_append, List.mem_filterMap] at h
  rcases h with ⟨f, -, hf⟩ | h
  · unfold featureProblem? at hf
    split at hf
    · obtain rfl := Option.some.inj hf
      rfl
    · split at hf
      · cases hf
      · obtain rfl := Option.some.inj hf
        rfl
  · unfold partProblems at h
    split at h
    · obtain ⟨c, -, rfl⟩ := List.mem_map.mp h
      rfl
    · cases h

theorem part_of_mem_problemsIn {m : Model} {p : Problem} {x : Part} (h : p ∈ m.problemsIn x) :
    part p = x := by
  cases x with
  | names =>
    rw [problemsIn, conflicts_eq] at h
    obtain ⟨name, -, rfl⟩ := List.mem_map.mp h
    rfl
  | entities =>
    obtain ⟨e, -, he⟩ := List.mem_flatMap.mp h
    exact part_of_mem_entityProblems he
  | intents =>
    obtain ⟨i, -, hi⟩ := List.mem_flatMap.mp h
    obtain ⟨f, -, rfl⟩ := List.mem_map.mp hi
    rfl
  | labels =>
    obtain ⟨l, -, rfl⟩ := List.mem_map.mp h
    rfl
  | references =>
    obtain ⟨name, -, rfl⟩ := List.mem_map.mp h
    rfl

/-- The problems, one part after the other. -/
theorem problems_eq (m : Model) :
    m.problems
      = m.problemsIn .names ++ m.problemsIn .entities ++ m.problemsIn .intents
        ++ m.problemsIn .labels ++ m.problemsIn .references := by
  refine Eq.trans ?_ (m.foldl_addKindless ?_ m.references [])
  · rw [List.map_nil, List.append_nil]
    rfl
  · intro name h
    simp only [List.mem_append, or_assoc] at h
    rcases h with h | h | h | h <;> cases part_of_mem_problemsIn h

/-- A problem is reported as often as the part that it belongs to reports it. -/
theorem count_problems (m : Model) (p : Problem) :
    m.problems.count p = (m.problemsIn (part p)).count p := by
  have hother : ∀ x, part p ≠ x → (m.problemsIn x).count p = 0 := by
    intro x hx
    exact List.count_eq_zero.mpr fun h => hx (part_of_mem_problemsIn h)
  rw [problems_eq]
  simp only [List.count_append]
  cases hp : part p <;> simp [hother, hp]

/-! ## How often each problem is reported -/

/-- The features that entities use, each with its entity, as often as they are listed. -/
def featureUses (m : Model) : List (Text × Text) :=
  m.entities.flatMap fun e => e.features.map fun f => (e.name, f)

/-- The parts of composite entities, each with its entity. -/
def partUses (m : Model) : List (Text × Text) :=
  m.entities.flatMap fun e =>
    if e.kind = .composite then e.children.map fun c => (e.name, c) else []

/-- The features that intents use, each with its intent. -/
def intentFeatureUses (m : Model) : List (Text × Text) :=
  m.intents.flatMap fun i => i.features.map fun f => (i.name, f)

/-- How often each problem of a model is reported: a conflict and a name without a kind once,
whatever else is wrong as often as it occurs. -/
structure Accounted (m : Model) : Prop where
  conflict : ∀ name kinds, m.problems.count (.conflictingKinds name kinds)
    = if 1 < (m.entities.map Entity.name).count name ∧ kinds = m.kindsOf name then 1 else 0
  ownFeature : ∀ name, m.problems.count (.selfFeature name) = m.featureUses.count (name, name)
  feature : ∀ f name, m.problems.count (.undefinedFeature f name)
    = if f ≠ name ∧ m.defines f = false then m.featureUses.count (name, f) else 0
  part : ∀ name c, m.problems.count (.undefinedPart name c)
    = if m.defines c = false then m.partUses.count (name, c) else 0
  intentFeature : ∀ f name, m.problems.count (.undefinedIntentFeature f name)
    = if m.defines f = false then m.intentFeatureUses.count (name, f) else 0
  label : ∀ name, m.problems.count (.undefinedLabel name)
    = if m.labelable name = false then m.labels.count name else 0
  kindless : ∀ name, m.problems.count (.kindlessName name)
    = if name ∈ m.references ∧ m.defines name = false then 1 else 0

section Counts

variable {α β : Type} [BEq α] [LawfulBEq α] [BEq β] [LawfulBEq β]

/-- Members of a list without duplicates, seen through a map that tells them apart. -/
theorem count_map_of_nodup {f : α → β} (hf : Function.Injective f) {xs : List α} (hxs : xs.Nodup)
    (a : α) : (xs.map f).count (f a) = if a ∈ xs then 1 else 0 := by
  rw [List.count_map_of_injective xs f hf, hxs.count]

/-- Members that pass a test, seen through a map that tells them apart. -/
theorem count_map_filter {f : α → β} (hf : Function.Injective f) (q : α → Bool) (xs : List α)
    (a : α) : ((xs.filter q).map f).count (f a) = if q a = true then xs.count a else 0 := by
  rw [List.count_map_of_injective _ f hf]
  split
  · next hq => exact List.count_filter hq
  · next hq => exact List.count_eq_zero.mpr fun h => hq (List.mem_filter.mp h).2

/-- A value that a single member has is counted as often as the member. -/
theorem count_filterMap_of_iff {g : α → Option β} {a : α} {b : β} (h : ∀ x, g x = some b ↔ x = a)
    (xs : List α) : (xs.filterMap g).count b = xs.count a := by
  induction xs with
  | nil => rfl
  | cons x xs ih =>
    rw [List.filterMap_cons, List.count_cons]
    by_cases hx : x = a
    · rw [(h x).mpr hx]
      simp [hx, ih]
    · have hne : ¬ g x = some b := fun hg => hx ((h x).mp hg)
      cases hg : g x with
      | none => simp [hx, ih]
      | some c =>
        have hc : c ≠ b := fun hc => hne (by rw [hg, hc])
        simp [hx, hc, ih]

end Counts

theorem count_conflict (m : Model) (name : Text) (kinds : List EntityKind) :
    m.problems.count (.conflictingKinds name kinds)
      = if 1 < (m.entities.map Entity.name).count name ∧ kinds = m.kindsOf name then 1 else 0 := by
  rw [count_problems]
  show m.conflicts.count _ = _
  rw [conflicts_eq]
  by_cases hkinds : kinds = m.kindsOf name
  · have hinj : Function.Injective m.conflictOf := by
      intro a b hab
      exact (Problem.conflictingKinds.inj hab).1
    have hmem : 1 < (m.entities.map Entity.name).count name
        → name ∈ m.entities.map Entity.name := by
      intro h
      exact List.count_pos_iff.mp (by omega)
    subst hkinds
    rw [show Problem.conflictingKinds name (m.kindsOf name) = m.conflictOf name from rfl,
      count_map_of_nodup hinj (nodup_appendNew List.nodup_nil)]
    simp only [mem_appendNew, List.mem_filter, isConflicting, length_kindsOf, decide_eq_true_eq,
      List.not_mem_nil, false_or, and_true]
    by_cases h : 1 < (m.entities.map Entity.name).count name
    · rw [if_pos ⟨hmem h, h⟩, if_pos h]
    · rw [if_neg (fun hc => h hc.2), if_neg h]
  · rw [if_neg (fun h => hkinds h.2), List.count_eq_zero]
    intro h
    obtain ⟨other, -, hother⟩ := List.mem_map.mp h
    obtain ⟨rfl, rfl⟩ := Problem.conflictingKinds.inj hother
    exact hkinds rfl

theorem count_kindless (m : Model) (name : Text) :
    m.problems.count (.kindlessName name)
      = if name ∈ m.references ∧ m.defines name = false then 1 else 0 := by
  have hinj : Function.Injective Problem.kindlessName := by
    intro a b hab
    exact Problem.kindlessName.inj hab
  rw [count_problems]
  show (m.kindless.map Problem.kindlessName).count _ = _
  rw [kindless, count_map_of_nodup hinj (nodup_appendNew List.nodup_nil)]
  simp

/-- The problem with one use of a feature. -/
def useProblem? (m : Model) (use : Text × Text) : Option Problem :=
  if use.2 = use.1 then some (.selfFeature use.1)
  else if m.defines use.2 then none
  else some (.undefinedFeature use.2 use.1)

/-- Up to order, the problems of the entities are those of the features they use and those of
the parts they have. -/
theorem entityProblems_perm (m : Model) :
    (m.problemsIn .entities).Perm
      (m.featureUses.filterMap m.useProblem?
        ++ (m.partUses.filter fun u => !m.defines u.2).map fun u => .undefinedPart u.1 u.2) := by
  have hfeatures : m.featureUses.filterMap m.useProblem?
      = m.entities.flatMap fun e => e.features.filterMap (m.featureProblem? e) := by
    rw [featureUses, List.filterMap_flatMap]
    simp only [List.filterMap_map]
    rfl
  have hparts : ((m.partUses.filter fun u => !m.defines u.2).map fun u =>
        Problem.undefinedPart u.1 u.2)
      = m.entities.flatMap m.partProblems := by
    rw [partUses, List.filter_flatMap, List.map_flatMap]
    refine congrArg (m.entities.flatMap ·) (funext fun e => ?_)
    unfold partProblems
    split
    · rw [List.filter_map, List.map_map]
      rfl
    · rfl
  rw [hfeatures, hparts]
  exact (List.flatMap_append_perm _ _ _).symm

/-- A problem of an entity is that of a use of a feature or that of a part. -/
theorem count_entity (m : Model) {p : Problem} (hp : part p = .entities) :
    m.problems.count p
      = (m.featureUses.filterMap m.useProblem?).count p
        + ((m.partUses.filter fun u => !m.defines u.2).map fun u =>
            Problem.undefinedPart u.1 u.2).count p := by
  rw [count_problems, hp, m.entityProblems_perm.count_eq, List.count_append]

theorem useProblem?_eq_selfFeature_iff {m : Model} {use : Text × Text} {name : Text} :
    m.useProblem? use = some (.selfFeature name) ↔ use = (name, name) := by
  obtain ⟨entity, f⟩ := use
  unfold useProblem?
  by_cases hown : f = entity
  · subst hown
    simp
  · simp only [hown, if_false, Prod.mk.injEq]
    constructor
    · intro h
      split at h <;> cases h
    · rintro ⟨rfl, rfl⟩
      exact absurd rfl hown

theorem useProblem?_eq_undefinedFeature_iff {m : Model} {use : Text × Text} {f name : Text} :
    m.useProblem? use = some (.undefinedFeature f name) ↔
      use = (name, f) ∧ f ≠ name ∧ m.defines f = false := by
  obtain ⟨entity, g⟩ := use
  unfold useProblem?
  by_cases hown : g = entity
  · subst hown
    simp only [if_true, Option.some.injEq, reduceCtorEq, Prod.mk.injEq, false_iff]
    rintro ⟨⟨rfl, rfl⟩, hne, -⟩
    exact hne rfl
  · by_cases hdefined : m.defines g = true
    · simp only [hown, if_false, hdefined, if_true, reduceCtorEq, Prod.mk.injEq, false_iff]
      rintro ⟨⟨rfl, rfl⟩, -, hundefined⟩
      rw [hdefined] at hundefined
      cases hundefined
    · simp only [hown, if_false, hdefined]
      constructor
      · intro h
        obtain ⟨rfl, rfl⟩ := Problem.undefinedFeature.inj (Option.some.inj h)
        exact ⟨rfl, hown, by simpa using hdefined⟩
      · rintro ⟨h, -⟩
        obtain ⟨rfl, rfl⟩ := Prod.mk.inj h
        rfl

theorem count_ownFeature (m : Model) (name : Text) :
    m.problems.count (.selfFeature name) = m.featureUses.count (name, name) := by
  have hpart : ((m.partUses.filter fun u => !m.defines u.2).map fun u =>
      Problem.undefinedPart u.1 u.2).count (.selfFeature name) = 0 :=
    List.count_eq_zero.mpr (by simp)
  rw [m.count_entity rfl, hpart, Nat.add_zero]
  exact count_filterMap_of_iff (fun _ => useProblem?_eq_selfFeature_iff) m.featureUses

theorem count_feature (m : Model) (f name : Text) :
    m.problems.count (.undefinedFeature f name)
      = if f ≠ name ∧ m.defines f = false then m.featureUses.count (name, f) else 0 := by
  have hpart : ((m.partUses.filter fun u => !m.defines u.2).map fun u =>
      Problem.undefinedPart u.1 u.2).count (.undefinedFeature f name) = 0 :=
    List.count_eq_zero.mpr (by simp)
  rw [m.count_entity rfl, hpart, Nat.add_zero]
  split
  · next hwrong =>
    refine count_filterMap_of_iff (fun use => ?_) m.featureUses
    rw [useProblem?_eq_undefinedFeature_iff]
    exact ⟨fun h => h.1, fun h => ⟨h, hwrong⟩⟩
  · next hright =>
    rw [List.count_eq_zero, List.mem_filterMap]
    rintro ⟨use, -, huse⟩
    exact hright (useProblem?_eq_undefinedFeature_iff.mp huse).2

theorem count_part (m : Model) (name c : Text) :
    m.problems.count (.undefinedPart name c)
      = if m.defines c = false then m.partUses.count (name, c) else 0 := by
  have hfeature : (m.featureUses.filterMap m.useProblem?).count (.undefinedPart name c) = 0 := by
    rw [List.count_eq_zero, List.mem_filterMap]
    rintro ⟨use, -, huse⟩
    unfold useProblem? at huse
    split at huse
    · cases huse
    · split at huse <;> cases huse
  have hinj : Function.Injective fun u : Text × Text => Problem.undefinedPart u.1 u.2 := by
    rintro ⟨a, b⟩ ⟨a', b'⟩ hab
    obtain ⟨rfl, rfl⟩ := Problem.undefinedPart.inj hab
    rfl
  rw [m.count_entity rfl, hfeature, Nat.zero_add]
  simpa using count_map_filter hinj (fun u => !m.defines u.2) m.partUses (name, c)

theorem count_intentFeature (m : Model) (f name : Text) :
    m.problems.count (.undefinedIntentFeature f name)
      = if m.defines f = false then m.intentFeatureUses.count (name, f) else 0 := by
  have hinj : Function.Injective fun u : Text × Text => Problem.undefinedIntentFeature u.2 u.1 := by
    rintro ⟨a, b⟩ ⟨a', b'⟩ hab
    obtain ⟨rfl, rfl⟩ := Problem.undefinedIntentFeature.inj hab
    rfl
  have huses : m.problemsIn .intents
      = (m.intentFeatureUses.filter fun u => !m.defines u.2).map fun u =>
          Problem.undefinedIntentFeature u.2 u.1 := by
    rw [intentFeatureUses, List.filter_flatMap, List.map_flatMap]
    refine congrArg (m.intents.flatMap ·) (funext fun i => ?_)
    rw [List.filter_map, List.map_map]
    rfl
  rw [count_problems, show part (.undefinedIntentFeature f name) = .intents from rfl, huses]
  simpa using count_map_filter hinj (fun u => !m.defines u.2) m.intentFeatureUses (name, f)

theorem count_label (m : Model) (name : Text) :
    m.problems.count (.undefinedLabel name)
      = if m.labelable name = false then m.labels.count name else 0 := by
  have hinj : Function.Injective Problem.undefinedLabel := by
    intro a b hab
    exact Problem.undefinedLabel.inj hab
  rw [count_problems]
  show m.labelProblems.count _ = _
  rw [labelProblems]
  simpa using count_map_filter hinj (fun l => !m.labelable l) m.labels name

/-- Every problem of every model is accounted for. -/
theorem accounted (m : Model) : m.Accounted where
  conflict := m.count_conflict
  ownFeature := m.count_ownFeature
  feature := m.count_feature
  part := m.count_part
  intentFeature := m.count_intentFeature
  label := m.count_label
  kindless := m.count_kindless

end Model

end LuServer
