/-
# The entity that gets a feature

After `@ ml name usesFeature ` the entities of the document are suggested, except the one that
is being defined.  Which one that is, the line before the caret tells; but a slot knows fewer
keywords and fewer names than a definition does.  A keyword in capital letters, or a name with
a hyphen, leads it to take the keyword for the name, and then the entity is suggested to itself.

* `Slot.FeatureLine`: a line that defines an entity and awaits its first feature.
* `Slot.featureOwner?_text`: the entity that a slot sees there.
* `entity_suggested_to_itself_iff`: when the entity itself is suggested.
-/
import LuServer.Grammar.Name
import LuServer.Proofs.Caret.Suggestions
import LuServer.Proofs.Grammar.Keyword

namespace LuServer

/-! ## Words -/

namespace Text

/-- A word has no quotes to take away. -/
theorem unquote_of_isDotted {t : Text} (h : ∀ c ∈ t, isDotted c = true) : unquote t = t := by
  have hblank : ∀ c ∈ t, isBlank c = false := fun c hc => isBlank_of_isDotted (h c hc)
  have hquote : ∀ c ∈ t, (c == '"') = false := by
    intro c hc
    rw [beq_eq_false_iff_ne]
    rintro rfl
    exact absurd (h _ hc) (by decide)
  rw [unquote, trim_of_not_blank hblank, trimQuotes, dropWhile_of_not hquote,
    dropWhileEnd_of_not hquote, trim_of_not_blank hblank]

end Text

namespace Slot

/-! ## Words and gaps -/

theorem exists_of_isGap {t : Text} (h : isGap t = true) :
    ∃ b bs, t = b :: bs ∧ Text.isBlank b = true ∧ ∀ c ∈ bs, Text.isBlank c = true := by
  cases t with
  | nil => cases h
  | cons b bs =>
    have hall : ∀ c ∈ b :: bs, Text.isBlank c = true := List.all_eq_true.mp h
    exact ⟨b, bs, rfl, hall b List.mem_cons_self, fun c hc => hall c (List.mem_cons_of_mem b hc)⟩

theorem isDotted_of_isBlank {b : Char} (hb : Text.isBlank b = true) : Text.isDotted b = false := by
  rw [Bool.eq_false_iff]
  intro hdotted
  rw [Text.isBlank_of_isDotted hdotted] at hb
  cases hb

theorem name?_of_boundary {word : Text} (hne : word ≠ [])
    (hword : ∀ c ∈ word, Text.isDotted c = true) {c : Char} (hc : Text.isDotted c = false)
    (rest : Text) : name? (word ++ c :: rest) = some (word, c :: rest) := by
  obtain ⟨htake, hdrop⟩ := Text.takeWhile_of_boundary rest hword hc
  obtain ⟨first, tail, rfl⟩ := List.exists_cons_of_ne_nil hne
  unfold name?
  split
  · next quoted hquoted =>
    have hquote := hword first List.mem_cons_self
    rw [(List.cons.inj hquoted).1] at hquote
    exact absurd hquote (by decide)
  · rw [htake, hdrop]

section Gap

variable {gap : Text} (hgap : isGap gap = true) (rest : Text)
include hgap

theorem afterGap?_gap : afterGap? (gap ++ rest) = some rest.trimStart := by
  obtain ⟨b, bs, rfl, hb, hbs⟩ := exists_of_isGap hgap
  rw [List.cons_append, afterGap?, if_pos hb, Text.trimStart_blanks_append hbs]

theorem afterKind?_word {word : Text} (hword : ∀ c ∈ word, Text.isBlank c = false) :
    afterKind? (word ++ (gap ++ rest))
      = if word ∈ kindWords then some rest.trimStart else none := by
  have hafter := afterGap?_gap hgap rest
  obtain ⟨b, bs, rfl, hb, -⟩ := exists_of_isGap hgap
  rw [List.cons_append] at hafter ⊢
  obtain ⟨htake, hdrop⟩ := Text.takeWhile_of_first (bs ++ rest) hword hb
  rw [afterKind?, htake, hdrop, hafter]
  simp only [List.contains_iff_mem]

theorem name?_word {word : Text} (hne : word ≠ []) (hword : ∀ c ∈ word, Text.isDotted c = true) :
    name? (word ++ (gap ++ rest)) = some (word, gap ++ rest) := by
  obtain ⟨b, bs, rfl, hb, -⟩ := exists_of_isGap hgap
  exact name?_of_boundary hne hword (isDotted_of_isBlank hb) (bs ++ rest)

/-- A word is not found where another one stands. -/
theorem afterWord?_of_ne {word other : Text} (hword : ∀ c ∈ word, Text.isBlank c = false)
    (hother : other.any Text.isBlank = false) (hne : word ≠ other) :
    afterWord? other (word ++ (gap ++ rest)) = none := by
  have hother : ∀ c ∈ other, Text.isBlank c = false :=
    fun c hc => Bool.eq_false_iff.mpr (List.any_eq_false.mp hother c hc)
  obtain ⟨b, bs, rfl, hb, -⟩ := exists_of_isGap hgap
  rw [afterWord?, Option.bind_eq_none_iff]
  intro after hafter
  cases after with
  | nil => rfl
  | cons c tail =>
    rw [afterGap?]
    split
    · next hc =>
      -- both words end at the first blank
      have hsame := Text.dropStart?_eq_some.mp hafter
      have hfirst := (Text.takeWhile_of_first (bs ++ rest) hword hb).1
      rw [← List.cons_append, hsame, (Text.takeWhile_of_first tail hother hc).1] at hfirst
      exact absurd hfirst.symm hne
    · rfl

end Gap

/-! ## Awaiting a feature -/

theorem awaitsFeature_word {word gap : Text}
    (hword : word = "usesFeature".toList ∨ word = "usesFeatures".toList) (hgap : isGap gap = true) :
    awaitsFeature (word ++ gap) = true := by
  have hafter : afterGap? gap = some [] := by
    have hafter := afterGap?_gap hgap []
    rwa [List.append_nil] at hafter
  have hplural : dropPlural gap = gap := by
    obtain ⟨b, bs, rfl, hb, -⟩ := exists_of_isGap hgap
    have hne : b ≠ 's' := by
      rintro rfl
      exact absurd hb (by decide)
    rw [dropPlural, Text.dropHead?, if_neg hne]
    rfl
  rcases hword with rfl | rfl
  · have hstart : Text.dropStart? ("usesFeature".toList ++ gap) "usesFeature".toList = some gap :=
      Text.dropStart?_eq_some.mpr rfl
    rw [awaitsFeature, hstart]
    dsimp only
    rw [hplural, hafter]
    rfl
  · have hstart : Text.dropStart? ("usesFeatures".toList ++ gap) "usesFeature".toList
        = some ('s' :: gap) := Text.dropStart?_eq_some.mpr rfl
    rw [awaitsFeature, hstart]
    dsimp only
    rw [show dropPlural ('s' :: gap) = gap from rfl, hafter]
    rfl

/-- Only the end of a text counts, from a blank on. -/
theorem endsAwaiting_append {gap : Text} (hgap : isGap gap = true) {t : Text}
    (ht : awaitsFeature t = true) (blank : Bool) (before : Text) :
    endsAwaiting blank (before ++ (gap ++ t)) = true := by
  -- what counts is the last blank of the gap
  obtain ⟨init, b, hlast⟩ : ∃ init b, gap = init ++ [b] := by
    obtain ⟨b, bs, rfl, -⟩ := exists_of_isGap hgap
    exact ⟨_, _, (List.dropLast_concat_getLast (List.cons_ne_nil b bs)).symm⟩
  have hb : Text.isBlank b = true := by
    refine List.all_eq_true.mp (Bool.and_eq_true_iff.mp hgap).2 b ?_
    rw [hlast]
    exact List.mem_append_right _ List.mem_cons_self
  rw [hlast, List.append_assoc, List.singleton_append, ← List.append_assoc]
  generalize before ++ init = before
  induction before generalizing blank with
  | nil =>
    cases t with
    | nil => cases ht
    | cons c t =>
      rw [List.nil_append, endsAwaiting, endsAwaiting, hb, ht]
      simp
  | cons c before ih =>
    rw [List.cons_append, endsAwaiting, ih]
    simp

theorem ownerAt?_word {word gap rest : Text} (hne : word ≠ [])
    (hword : ∀ c ∈ word, Text.isDotted c = true) (hgap : isGap gap = true)
    (hends : endsAwaiting false (gap ++ rest) = true) :
    ownerAt? (word ++ (gap ++ rest)) = some word := by
  rw [ownerAt?, name?_word hgap rest hne hword]
  dsimp only
  have hhead : (gap ++ rest).head?.any Text.isBlank = true := by
    obtain ⟨b, bs, rfl, hb, -⟩ := exists_of_isGap hgap
    exact hb
  rw [hhead, hends]
  rfl

/-- A name with a hyphen is no owner. -/
theorem ownerAt?_hyphen {word rest : Text} (hword : ∀ c ∈ word, Name.isNameChar c = true)
    (hhyphen : ¬ word.all Text.isDotted = true) : ownerAt? (word ++ rest) = none := by
  rcases Text.find?_cases (fun c => !Text.isDotted c) word with
    ⟨-, hall⟩ | ⟨before, c, after, rfl, hc, hbefore, -⟩
  · refine absurd (List.all_eq_true.mpr fun c hc => ?_) hhyphen
    simpa using hall c hc
  · simp only [Bool.not_eq_eq_eq_not, Bool.not_true, Bool.not_false] at hc hbefore
    -- the only character of names that is not dotted
    obtain rfl : c = '-' := by
      have hname := hword c (List.mem_append_right _ List.mem_cons_self)
      rw [Name.isNameChar] at hname
      simp only [Text.isDotted, Bool.or_eq_false_iff] at hc
      rw [hc.1, hc.2] at hname
      exact eq_of_beq hname
    rw [List.append_assoc, List.cons_append, ownerAt?]
    cases before with
    | nil => rfl
    | cons first before =>
      rw [name?_of_boundary (List.cons_ne_nil _ _) hbefore hc]
      rfl

/-! ## Lines that await a feature -/

/-- The parts of a line before the caret, `@ ml name usesFeature ` in any spelling: the keyword
of a kind in capitals or not, a name of one word, and as many blanks as one likes. -/
structure FeatureLine where
  lead : Text
  inner : Text
  keyword : Text
  first : Text
  name : Text
  second : Text
  word : Text
  last : Text
  lead_blank : isBlank lead = true
  inner_blank : isBlank inner = true
  keyword_known : (EntityKind.ofKeyword? keyword).isSome = true
  first_gap : isGap first = true
  name_valid : Name.isValid name = true
  name_word : name.any Text.isBlank = false
  second_gap : isGap second = true
  word_uses : word = "usesFeature".toList ∨ word = "usesFeatures".toList
  last_gap : isGap last = true

namespace FeatureLine

variable (l : FeatureLine)

/-- The line, up to the caret. -/
def text : Text :=
  l.lead ++ '@' :: (l.inner ++ (l.keyword ++ (l.first ++ (l.name ++ (l.second ++
    (l.word ++ l.last))))))

theorem name_not_blank : ∀ c ∈ l.name, Text.isBlank c = false :=
  fun c hc => Bool.eq_false_iff.mpr (List.any_eq_false.mp l.name_word c hc)

theorem isNameChar_name : l.name ≠ [] ∧ ∀ c ∈ l.name, Name.isNameChar c = true := by
  have hvalid := l.name_valid
  simp only [Name.isValid, Bool.and_eq_true, List.all_eq_true, Bool.or_eq_true] at hvalid
  obtain ⟨⟨hall, hhead⟩, -⟩ := hvalid
  constructor
  · intro hnil
    rw [hnil] at hhead
    cases hhead
  · intro c hc
    refine (hall c hc).resolve_right ?_
    rw [l.name_not_blank c hc]
    exact Bool.false_ne_true

theorem keyword_not_blank : ∀ c ∈ l.keyword, Text.isBlank c = false :=
  fun c hc => Text.isBlank_of_isDotted ((EntityKind.isDotted_of_ofKeyword? l.keyword_known).2 c hc)

theorem afterAt?_text :
    afterAt? l.text = some (l.keyword ++ (l.first ++ (l.name ++ (l.second ++
      (l.word ++ l.last))))) := by
  have hkeyword := EntityKind.isDotted_of_ofKeyword? l.keyword_known
  rw [afterAt?, text, Text.trimStart_blanks_append (List.all_eq_true.mp l.lead_blank),
    Text.trimStart_cons (by decide), Text.dropHead?, if_pos rfl, Option.map_some,
    Text.trimStart_blanks_append (List.all_eq_true.mp l.inner_blank),
    Text.trimStart_word hkeyword.1 l.keyword_not_blank]

theorem isIntentFeature_text : isIntentFeature l.text = false := by
  rw [isIntentFeature, afterAt?_text, Option.bind_some, afterWord?_of_ne l.first_gap _
    l.keyword_not_blank (by decide) (EntityKind.ne_intent_of_ofKeyword? l.keyword_known)]
  rfl

/-- A slot sees the name only after a keyword that it knows, and only a name without
hyphens.  Else it takes the keyword for the name. -/
theorem featureOwner?_text :
    featureOwner? l.text
      = if l.keyword ∈ kindWords ∧ l.name.all Text.isDotted = true then
          if l.name = "intent".toList then none else some l.name
        else some l.keyword := by
  obtain ⟨hkeyword, hdotted⟩ := EntityKind.isDotted_of_ofKeyword? l.keyword_known
  have hawaits := awaitsFeature_word l.word_uses l.last_gap
  have hends := endsAwaiting_append l.second_gap hawaits false
  have hasKeyword : ownerAt? (l.keyword ++ (l.first ++ (l.name ++ (l.second ++
      (l.word ++ l.last))))) = some l.keyword := by
    refine ownerAt?_word hkeyword hdotted l.first_gap ?_
    rw [← List.append_assoc l.first]
    exact hends (l.first ++ l.name)
  rw [featureOwner?, afterAt?_text]
  dsimp only
  rw [afterKind?_word l.first_gap _ l.keyword_not_blank, hasKeyword]
  have hunquoted : (((some l.keyword).map Text.unquote).filter (· ≠ "intent".toList))
      = some l.keyword := by
    rw [Option.map_some, Text.unquote_of_isDotted hdotted]
    exact Option.filter_some_pos
      (decide_eq_true (EntityKind.ne_intent_of_ofKeyword? l.keyword_known))
  by_cases hknown : l.keyword ∈ kindWords
  · rw [if_pos hknown, Option.bind_some,
      Text.trimStart_word l.isNameChar_name.1 l.name_not_blank]
    by_cases hname : l.name.all Text.isDotted = true
    · have hdotted := List.all_eq_true.mp hname
      rw [if_pos ⟨hknown, hname⟩, ownerAt?_word l.isNameChar_name.1 hdotted l.second_gap
        (hends []), Option.some_or, Option.map_some, Text.unquote_of_isDotted hdotted]
      split
      · next hintent => exact Option.filter_some_neg (by simp [hintent])
      · next hintent => exact Option.filter_some_pos (decide_eq_true hintent)
    · rw [if_neg (fun h => hname h.2), ownerAt?_hyphen l.isNameChar_name.2 hname, Option.none_or]
      exact hunquoted
  · rw [if_neg hknown, if_neg (fun h => hknown h.1), Option.bind_none, Option.none_or]
    exact hunquoted

end FeatureLine

end Slot

/-! ## Suggestions -/

/-- **An entity suggested to itself.**  Where a line that defines an entity awaits its first
feature, the entity itself is among the suggestions exactly if the document around the line has
it as one that can be a feature, and the slot misses its name: the keyword is one that the slot
does not know, or the name has a hyphen, and the name is not written as the keyword is. -/
theorem entity_suggested_to_itself_iff (text culture : Text) (p : Position)
    (l : Slot.FeatureLine) (hcaret : text.upToCaret p = l.text) :
    (∃ i ∈ (complete text p culture).value, i.kind = .method ∧ i.insertText = l.name) ↔
      ¬ (l.keyword ∈ Slot.kindWords ∧ l.name.all Text.isDotted = true) ∧
      l.name ≠ l.keyword ∧
      ∃ m, (extractAround? text p.line culture).value = some m ∧
        l.name ∈ m.entityNames EntityKind.featurable := by
  rw [exists_feature_iff, hcaret, l.isIntentFeature_text, l.featureOwner?_text, ← and_assoc]
  refine and_congr_left' ?_
  rw [or_iff_left Bool.false_ne_true]
  split
  · next hseen =>
    -- the name is seen: it is the owner, or there is none
    refine iff_of_false ?_ (fun h => h.1 hseen)
    rintro ⟨owner, howner, hne⟩
    split at howner
    · cases howner
    · exact hne (Option.some.inj howner).symm
  · next hmissed =>
    constructor
    · rintro ⟨owner, howner, hne⟩
      obtain rfl := Option.some.inj howner
      exact ⟨hmissed, hne.symm⟩
    · rintro ⟨-, hne⟩
      exact ⟨l.keyword, rfl, hne.symm⟩

/-- A name with a hyphen is suggested to itself. -/
theorem entity_suggested_to_itself_hyphened :
    let text : Text := "@ ml my-name\n@ ml my-name usesFeature ".toList
    ∃ l : Slot.FeatureLine, text.upToCaret ⟨1, 25⟩ = l.text ∧ l.name = "my-name".toList ∧
      ∃ i ∈ (complete text ⟨1, 25⟩ []).value, i.kind = .method ∧ i.insertText = l.name := by
  intro text
  let l : Slot.FeatureLine :=
    { lead := [], inner := " ".toList, keyword := "ml".toList, first := " ".toList
      name := "my-name".toList, second := " ".toList, word := "usesFeature".toList
      last := " ".toList, lead_blank := by decide, inner_blank := by decide
      keyword_known := by decide, first_gap := by decide, name_valid := by decide +kernel
      name_word := by decide, second_gap := by decide, word_uses := .inl rfl
      last_gap := by decide }
  have hcaret : text.upToCaret ⟨1, 25⟩ = l.text := by decide +kernel
  refine ⟨l, hcaret, rfl, (entity_suggested_to_itself_iff text [] ⟨1, 25⟩ l hcaret).mpr ?_⟩
  refine ⟨by decide +kernel, by decide, ?_⟩
  exact ⟨{ entities := [{ name := "my-name".toList, kind := .ml }] }, by decide +kernel,
    by decide +kernel⟩

/-- So is one whose keyword is written in capitals. -/
theorem entity_suggested_to_itself_capitals :
    let text : Text := "@ ml color\n@ ML color usesFeature ".toList
    (complete text ⟨1, 23⟩ []).value = [.ofFeature "color".toList] := by
  decide +kernel

end LuServer
