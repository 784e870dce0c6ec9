/-
# What completion lists

Completion asks for the model when it first needs it and keeps the answer.  What it lists is
what the rules that apply list on their own, each with the same model at hand: the order in
which the model is asked for does not show.

* `Rule.found`: what a rule lists, given the model.
* `Rule.items_eq`, `Rule.value_items`: a rule that asks for the model lists this.
* `value_complete`: what completion lists.
* `exists_feature_iff`: which features it lists.
-/
import LuServer.Caret.Completion

namespace LuServer

/-- The names that a model gives; none without a model. -/
def namesOf (answer : Option Model) (kinds : List EntityKind) : List Text :=
  (answer.map (·.entityNames kinds)).getD []

theorem mem_namesOf {answer : Option Model} {kinds : List EntityKind} {name : Text} :
    name ∈ namesOf answer kinds ↔ ∃ m, answer = some m ∧ name ∈ m.entityNames kinds := by
  cases answer <;> simp [namesOf]

namespace Rule

/-- Whether a rule asks for the model. -/
def asks : Rule → Bool
  | kinds | prebuilts | regexBody | modifiers | intentModifier => false
  | _ => true

/-- What a rule lists, given the model and the line before the caret. -/
def found (answer : Option Model) (before : Text) : Rule → List Item
  | kinds => EntityKind.all.map fun k => .ofKeyword k.keyword "Entity type: "
  | prebuilts => EntityKind.prebuiltNames.map fun n => .ofKeyword n "Prebuilt entity: "
  | regexBody => [.slashes]
  | modifiers => [.hasRoles, .usesFeature "entity"]
  | separatedRegex =>
    if (Slot.separatedName? before).any (namesOf answer [.regex]).contains then [.slashes] else []
  | patternEntities => (namesOf answer EntityKind.referable).map .ofMention
  | definedEntities =>
    ((namesOf answer EntityKind.referable).filter fun n => (EntityKind.ofKeyword? n).isNone).map
      (.ofName "Defined entity: ")
  | parts => (namesOf answer EntityKind.composable).map (.ofName "Composite child entity: ")
  | roles => ((answer.map (·.roles EntityKind.referable)).getD []).map .ofRole
  | children => (namesOf answer EntityKind.referable).map .ofChild
  | entityFeatures =>
    ((namesOf answer EntityKind.featurable).filter fun n =>
      Slot.featureOwner? before ≠ some n).map .ofFeature
  | intentModifier => [.usesFeature "intent"]
  | intentFeatures => (namesOf answer EntityKind.featurable).map .ofFeature

end Rule

namespace CaretContext

/-- The model around the caret. -/
def answer (ctx : CaretContext) : Option Model :=
  (extractAround? ctx.text ctx.line ctx.culture).value

/-- Nothing has been asked yet, or the answer is known. -/
def Asked (ctx : CaretContext) (known : Option (Option Model)) : Prop :=
  known = none ∨ known = some ctx.answer

theorem value_askModel {ctx : CaretContext} {known : Option (Option Model)} (h : ctx.Asked known) :
    ((askModel ctx).run known).value = (ctx.answer, some ctx.answer) := by
  rcases h with rfl | rfl
  · rfl
  · rfl

end CaretContext

namespace Rule

variable {ctx : CaretContext} {known : Option (Option Model)}

/-- A rule that asks for the model asks once, before anything else. -/
theorem items_eq (ctx : CaretContext) (r : Rule) :
    r.items ctx = if r.asks then (return r.found (← askModel ctx) ctx.before)
      else return r.found ctx.answer ctx.before := by
  cases r <;> rfl

theorem value_items (h : ctx.Asked known) (r : Rule) :
    ∃ known', ((r.items ctx).run known).value = (r.found ctx.answer ctx.before, known') ∧
      ctx.Asked known' := by
  rw [items_eq]
  split
  · refine ⟨some ctx.answer, ?_, .inr rfl⟩
    rw [StateT.run_bind, Counted.value_bind, CaretContext.value_askModel h]
    rfl
  · exact ⟨known, rfl, h⟩

/-- What a rule lists at a caret. -/
def listed (ctx : CaretContext) (r : Rule) : List Item :=
  if r.applies ctx.before then r.found ctx.answer ctx.before else []

theorem value_collect (h : ctx.Asked known) (rs : List Rule) :
    ((collect ctx rs).run known).value.1 = rs.flatMap (listed ctx) := by
  induction rs generalizing known with
  | nil => rfl
  | cons r rs ih =>
    rw [collect, List.flatMap_cons, listed]
    split
    · obtain ⟨known', hown, h'⟩ := value_items h r
      rw [StateT.run_bind, Counted.value_bind, hown, ← ih h']
      rfl
    · rw [← ih h]
      rfl

end Rule

/-- **What completion lists**: one rule after the other, what the rules that apply list by the
model around the caret. -/
theorem value_complete (text : Text) (p : Position) (culture : Text) :
    (complete text p culture).value
      = Rule.all.flatMap (Rule.listed (.ofPosition text p culture)) :=
  Rule.value_collect (.inl rfl) Rule.all

theorem mem_complete {text : Text} {p : Position} {culture : Text} {i : Item} :
    i ∈ (complete text p culture).value ↔
      ∃ r : Rule, r.applies (text.upToCaret p) = true ∧
        i ∈ r.found (extractAround? text p.line culture).value (text.upToCaret p) := by
  rw [value_complete, List.mem_flatMap]
  constructor
  · rintro ⟨r, -, hi⟩
    unfold Rule.listed at hi
    split at hi
    · next happlies => exact ⟨r, happlies, hi⟩
    · cases hi
  · rintro ⟨r, happlies, hi⟩
    refine ⟨r, by cases r <;> decide, ?_⟩
    have hlisted : r.listed (.ofPosition text p culture)
        = r.found (extractAround? text p.line culture).value (text.upToCaret p) := if_pos happlies
    rw [hlisted]
    exact hi

/-! ## Features -/

namespace Rule

/-- What the items of a rule stand for. -/
def itemKind : Rule → ItemKind
  | kinds | prebuilts | regexBody | modifiers | separatedRegex | intentModifier => .keyword
  | patternEntities | definedEntities | parts | roles | children => .property
  | entityFeatures | intentFeatures => .method

theorem kind_of_mem_found {answer : Option Model} {before : Text} {r : Rule} {i : Item}
    (hi : i ∈ r.found answer before) : i.kind = r.itemKind := by
  cases r with
  | regexBody | intentModifier =>
    obtain rfl := List.mem_singleton.mp hi
    rfl
  | modifiers =>
    rw [found, List.mem_cons, List.mem_singleton] at hi
    rcases hi with rfl | rfl <;> rfl
  | separatedRegex =>
    rw [found] at hi
    split at hi
    · obtain rfl := List.mem_singleton.mp hi
      rfl
    · cases hi
  | _ =>
    rw [found] at hi
    obtain ⟨x, -, rfl⟩ := List.mem_map.mp hi
    rfl

end Rule

/-- A feature is listed if the model has it, for an intent or for an entity other than
itself. -/
theorem exists_feature_iff {text : Text} {p : Position} {culture name : Text} :
    (∃ i ∈ (complete text p culture).value, i.kind = .method ∧ i.insertText = name) ↔
      ((∃ owner, Slot.featureOwner? (text.upToCaret p) = some owner ∧ owner ≠ name) ∨
        Slot.isIntentFeature (text.upToCaret p) = true) ∧
      ∃ m, (extractAround? text p.line culture).value = some m ∧
        name ∈ m.entityNames EntityKind.featurable := by
  rw [← mem_namesOf]
  constructor
  · rintro ⟨i, hi, hkind, rfl⟩
    obtain ⟨r, happlies, hfound⟩ := mem_complete.mp hi
    have hrule : r.itemKind = .method := (Rule.kind_of_mem_found hfound).symm.trans hkind
    cases r with
    | entityFeatures =>
      obtain ⟨owner, howner⟩ := Option.isSome_iff_exists.mp happlies
      rw [Rule.found] at hfound
      obtain ⟨name, hname, rfl⟩ := List.mem_map.mp hfound
      obtain ⟨hname, hne⟩ := List.mem_filter.mp hname
      refine ⟨.inl ⟨owner, howner, ?_⟩, hname⟩
      rintro rfl
      exact of_decide_eq_true hne howner
    | intentFeatures =>
      rw [Rule.found] at hfound
      obtain ⟨name, hname, rfl⟩ := List.mem_map.mp hfound
      exact ⟨.inr happlies, hname⟩
    | _ => cases hrule
  · rintro ⟨⟨owner, howner, hne⟩ | hintent, hname⟩
    · refine ⟨.ofFeature name, mem_complete.mpr ⟨.entityFeatures, ?_, ?_⟩, rfl, rfl⟩
      · exact Option.isSome_iff_exists.mpr ⟨owner, howner⟩
      · rw [Rule.found, howner]
        refine List.mem_map_of_mem (List.mem_filter.mpr ⟨hname, ?_⟩)
        exact decide_eq_true fun h => hne (Option.some.inj h)
    · exact ⟨.ofFeature name,
        mem_complete.mpr ⟨.intentFeatures, hintent, List.mem_map_of_mem hname⟩, rfl, rfl⟩

end LuServer
