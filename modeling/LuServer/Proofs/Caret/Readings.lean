/-
# How often completion reads a text

The rules of completion share one answer about the model.  The first rule that applies and asks
for it has the text read, and read again without the line of the caret if that failed; the rules
after it find the answer there.  So the work is that of one look for the model, or none, however
many rules apply, and without a model only the rules are left that never ask for one.

* `extractAround?_of_ok`, `extractAround?_of_error`: one look for the model.
* `Rule.parses_items`, `Rule.parses_collect`: what a rule costs, and all of them together.
* `complete_eq`: completion is at most one look for the model.
* `Rule.found_none`: what a rule lists without a model.
* `completion_reads_lazily`: the results together.
-/
import LuServer.Proofs.Caret.Suggestions
import LuServer.Proofs.Draft.Isolation
import Mathlib.Data.List.Basic

namespace LuServer

attribute [ext] Counted

/-! ## One look for the model -/

theorem extract?_eq (text culture : Text) :
    extract? text culture = (do
      let answer ← Counted.parse text culture
      return answer.toOption) := by
  rw [extract?, Counted.parse]
  cases parse text culture <;> rfl

/-- A text that can be read is read once. -/
theorem extractAround?_of_ok {text culture : Text} {m : Model} (h : parse text culture = .ok m)
    (n : Nat) :
    extractAround? text n culture = (do
      let answer ← Counted.parse text culture
      return answer.toOption) := by
  rw [extractAround?, extract?_eq, Counted.parse, h]
  rfl

/-- If a text cannot be read, it is read without the line, whatever comes of that. -/
theorem extractAround?_of_error {text culture : Text} {errors : List SyntaxError}
    (h : parse text culture = .error errors) (n : Nat) :
    extractAround? text n culture = (do
      let _ ← Counted.parse text culture
      let answer ← Counted.parse (text.withoutLine n) culture
      return answer.toOption) := by
  rw [extractAround?, extract?_eq, extract?_eq, Counted.parse, h]
  rfl

/-! ## Rules that share the answer -/

namespace CaretContext

variable {ctx : CaretContext}

/-- The cost of the answer: none if it is known. -/
def cost (ctx : CaretContext) (known : Option (Option Model)) : Nat :=
  if known.isSome then 0 else (extractAround? ctx.text ctx.line ctx.culture).parses

theorem parses_askModel (known : Option (Option Model)) :
    ((askModel ctx).run known).parses = ctx.cost known := by
  cases known with
  | some answer => rfl
  | none => exact Nat.zero_add _

end CaretContext

namespace Rule

variable {ctx : CaretContext} {known : Option (Option Model)}

/-- Whether a rule contributes after `before` and asks for the model. -/
def consults (before : Text) (r : Rule) : Bool :=
  r.applies before && r.asks

theorem value_items_of_asks (h : ctx.Asked known) {r : Rule} (hr : r.asks = true) :
    ((r.items ctx).run known).value = (r.found ctx.answer ctx.before, some ctx.answer) := by
  rw [items_eq, if_pos hr, StateT.run_bind, Counted.value_bind, CaretContext.value_askModel h]
  rfl

theorem parses_items_of_asks {r : Rule} (hr : r.asks = true) :
    ((r.items ctx).run known).parses = ctx.cost known := by
  rw [items_eq, if_pos hr, StateT.run_bind, Counted.parses_bind, CaretContext.parses_askModel]
  rfl

/-- A rule that does not ask leaves everything as it is. -/
theorem run_items_of_not_asks {r : Rule} (hr : r.asks = false) :
    (r.items ctx).run known = pure (r.found ctx.answer ctx.before, known) := by
  rw [items_eq, hr]
  rfl

/-- Only the first rule that asks costs anything. -/
theorem parses_collect (h : ctx.Asked known) (rs : List Rule) :
    ((collect ctx rs).run known).parses
      = if rs.any (consults ctx.before) then ctx.cost known else 0 := by
  induction rs generalizing known with
  | nil => rfl
  | cons r rs ih =>
    rw [collect, List.any_cons, consults]
    cases happlies : r.applies ctx.before with
    | false =>
      rw [Bool.false_and, Bool.false_or, ← ih h]
      exact Nat.zero_add _
    | true =>
      rw [if_pos rfl, Bool.true_and, StateT.run_bind, Counted.parses_bind]
      cases hr : r.asks with
      | false =>
        rw [run_items_of_not_asks hr, Bool.false_or, ← ih h]
        exact Nat.zero_add _
      | true =>
        -- the rules after this one find the answer
        have hrest := @ih (some ctx.answer) (.inr rfl)
        rw [CaretContext.cost, Option.isSome_some, if_pos rfl, ite_self] at hrest
        rw [parses_items_of_asks hr, value_items_of_asks h hr, Bool.true_or, if_pos rfl]
        exact congrArg (ctx.cost known + ·) hrest

end Rule

/-! ## What completion lists and costs -/

namespace Rule

/-- What the rules that apply after `before` list, given the model. -/
def listing (answer : Option Model) (before : Text) : List Item :=
  all.flatMap fun r => if r.applies before then r.found answer before else []

/-- The model makes no difference to a rule that does not ask for it. -/
theorem found_of_not_asks {r : Rule} (hr : r.asks = false) (a b : Option Model) (before : Text) :
    r.found a before = r.found b before := by
  cases r with
  | kinds | prebuilts | regexBody | modifiers | intentModifier => rfl
  | _ => cases hr

/-- A rule that asks for the model lists nothing without it. -/
theorem found_none {r : Rule} (hr : r.asks = true) (before : Text) : r.found none before = [] := by
  cases r with
  | kinds | prebuilts | regexBody | modifiers | intentModifier => cases hr
  | separatedRegex =>
    rw [found]
    cases Slot.separatedName? before <;> rfl
  | _ => rfl

theorem listing_of_not_consults {before : Text} (h : all.any (consults before) = false)
    (a b : Option Model) : listing a before = listing b before := by
  refine List.flatMap_congr ?_
  intro r hr
  have hconsults : consults before r = false := by
    simpa using List.any_eq_false.mp h r hr
  split
  · next happlies =>
    rw [consults, happlies, Bool.true_and] at hconsults
    exact found_of_not_asks hconsults a b before
  · rfl

/-- Without a model the rules are left that do not ask for it. -/
theorem listing_none (before : Text) :
    listing none before
      = (all.filter fun r => r.applies before && !r.asks).flatMap (found none before) := by
  rw [listing]
  induction all with
  | nil => rfl
  | cons r rs ih =>
    rw [List.flatMap_cons, ih, List.filter_cons]
    cases happlies : r.applies before with
    | false => rfl
    | true =>
      cases hr : r.asks with
      | false => rfl
      | true =>
        rw [found_none hr]
        rfl

end Rule

/-- **Completion is at most one look for the model**: one, if a rule that applies asks for it. -/
theorem complete_eq (text : Text) (p : Position) (culture : Text) :
    complete text p culture
      = if Rule.all.any (Rule.consults (text.upToCaret p)) then (do
          let answer ← extractAround? text p.line culture
          return Rule.listing answer (text.upToCaret p))
        else return Rule.listing none (text.upToCaret p) := by
  have hparses : (complete text p culture).parses
      = if Rule.all.any (Rule.consults (text.upToCaret p))
        then (extractAround? text p.line culture).parses else 0 :=
    @Rule.parses_collect (.ofPosition text p culture) none (.inl rfl) Rule.all
  refine Counted.ext ?_ ?_
  · rw [value_complete]
    split
    · rfl
    · next hnone =>
      exact Rule.listing_of_not_consults (Bool.eq_false_iff.mpr hnone) _ none
  · rw [hparses]
    split <;> rfl

/-- **How often completion reads a text.**  If no rule that applies asks for the model, nothing is
read.  If one does, the text is read once if it can be read, and else a second time without the
line of the caret, however many rules apply.  All of them list what they list by the one model
that was found; and if none was found, what is listed is what the rules list that apply and do
not ask for it. -/
theorem completion_reads_lazily (text : Text) (p : Position) (culture : Text) :
    let before := text.upToCaret p
    let around := text.withoutLine p.line
    ((∀ r : Rule, r.asks = true → r.applies before = false) →
      complete text p culture = ⟨Rule.listing none before, 0⟩) ∧
    ((∃ r : Rule, r.asks = true ∧ r.applies before = true) →
      (∀ m, parse text culture = .ok m →
        complete text p culture = (do
            let _ ← Counted.parse text culture
            return Rule.listing (some m) before) ∧
          (complete text p culture).parses = 1) ∧
      ∀ errors, parse text culture = .error errors →
        complete text p culture = (do
            let _ ← Counted.parse text culture
            let second ← Counted.parse around culture
            return Rule.listing second.toOption before) ∧
          (complete text p culture).parses = 2) ∧
    ((parse text culture).toOption = none → (parse around culture).toOption = none →
      (complete text p culture).value
        = (Rule.all.filter fun r => r.applies before && !r.asks).flatMap
            (Rule.found none before)) := by
  intro before around
  refine ⟨?_, ?_, ?_⟩
  · intro hnone
    have hany : Rule.all.any (Rule.consults before) = false := by
      rw [List.any_eq_false]
      intro r _
      cases hr : r.asks with
      | false => simp [Rule.consults, hr]
      | true => simp [Rule.consults, hnone r hr]
    rw [complete_eq, if_neg (by simpa using hany)]
    rfl
  · rintro ⟨r, hr, happlies⟩
    have hany : Rule.all.any (Rule.consults before) = true := by
      refine List.any_eq_true.mpr ⟨r, by cases r <;> decide, ?_⟩
      rw [Rule.consults, happlies, hr]
      rfl
    rw [complete_eq, if_pos hany]
    constructor
    · intro m hm
      rw [extractAround?_of_ok hm, Counted.parse, hm]
      exact ⟨rfl, rfl⟩
    · intro errors herrors
      rw [extractAround?_of_error herrors, Counted.parse, herrors]
      exact ⟨rfl, rfl⟩
  · intro hfirst hsecond
    have hanswer : (extractAround? text p.line culture).value = none := by
      rw [value_extractAround?, hfirst, hsecond, Option.or_none]
    have hvalue : (complete text p culture).value
        = Rule.listing (extractAround? text p.line culture).value before :=
      value_complete text p culture
    rw [hvalue, hanswer, Rule.listing_none]

/-- Two rules apply after `@`, and neither the text nor its other line can be read. -/
theorem completion_reads_lazily_twice :
    let text : Text := "@\n!".toList
    let r : Rule := .definedEntities
    ((r.asks = true ∧ r.applies (text.upToCaret ⟨0, 1⟩) = true) ∧
      (parse text []).toOption = none ∧ (parse (text.withoutLine 0) []).toOption = none) ∧
      (complete text ⟨0, 1⟩ []).parses = 2 ∧
      (complete text ⟨0, 1⟩ []).value = Rule.kinds.found none ['@'] := by
  intro text r
  have hrule : r.asks = true ∧ r.applies (text.upToCaret ⟨0, 1⟩) = true := by decide
  have hfirst : (parse text []).toOption = none := by decide +kernel
  have hsecond : (parse (text.withoutLine 0) []).toOption = none := by decide +kernel
  obtain ⟨-, hcalls, hvalue⟩ := completion_reads_lazily text ⟨0, 1⟩ []
  refine ⟨⟨hrule, hfirst, hsecond⟩, ?_, (hvalue hfirst hsecond).trans (by decide)⟩
  cases hparse : parse text [] with
  | ok m => simp [hparse, Except.toOption] at hfirst
  | error errors => exact ((hcalls ⟨r, hrule⟩).2 errors hparse).2

end LuServer
