/-
# What is listed after a lone `@`

After a lone `@` both a kind and the name of an entity can stand, so two rules apply, and no
other.  The kinds are listed first, by their keywords; then the names that the model around the
caret gives, except those that read as a keyword, so that nothing is listed twice.  Names that
entities have come before names that only patterns mention, wherever they stand in the text.

* `Slot.afterAt?_lone`, `Slot.afterBullet?_lone`: what the slots see of such a line.
* `Rule.applies_lone_iff`: the rules that apply.
* `Model.suggestedNames`: the names that are listed.
* `kind_slot_lists_names`: the results together.
-/
import LuServer.Proofs.Caret.Suggestions
import LuServer.Proofs.Draft.Isolation
import LuServer.Proofs.Model.Names

namespace LuServer

/-! ## The rules that apply -/

section LoneSign

variable {a b : Text} (ha : ∀ c ∈ a, Text.isBlank c = true) (hb : ∀ c ∈ b, Text.isBlank c = true)

include ha

theorem Slot.trimStart_lone : Text.trimStart (a ++ '@' :: b) = '@' :: b := by
  rw [Text.trimStart_blanks_append ha, Text.trimStart_cons (by decide)]

theorem Slot.afterBullet?_lone : Slot.afterBullet? (a ++ '@' :: b) = none := by
  rw [afterBullet?, trimStart_lone ha]
  rfl

include hb

theorem Slot.afterAt?_lone : Slot.afterAt? (a ++ '@' :: b) = some [] := by
  have hblank : Text.trimStart b = [] := by
    rw [← List.append_nil b, Text.trimStart_blanks_append hb, Text.trimStart_nil]
  rw [afterAt?, trimStart_lone ha, Text.dropHead?, if_pos rfl, Option.map_some, hblank]

/-- After a lone `@` a kind or the name of an entity can stand, and nothing else. -/
theorem Rule.applies_lone_iff (r : Rule) :
    r.applies (a ++ '@' :: b) = true ↔ r = .kinds ∨ r = .definedEntities := by
  have hat := Slot.afterAt?_lone ha hb
  have hbullet := Slot.afterBullet?_lone (b := b) ha
  cases r with
  | kinds => rw [applies, Slot.isKind, hat]; decide
  | prebuilts => rw [applies, Slot.isPrebuilt, hat]; decide
  | regexBody => rw [applies, Slot.isRegexBody, hat]; decide
  | modifiers => rw [applies, Slot.isModifier, hat]; decide
  | separatedRegex => rw [applies, Slot.separatedName?, hat]; decide
  | patternEntities => rw [applies, Slot.isPattern, hbullet]; decide
  | definedEntities => rw [applies, Slot.isKind, hat]; decide
  | parts => rw [applies, Slot.isPart, hat]; decide
  | roles => rw [applies, Slot.isRole, hbullet]; decide
  | children => rw [applies, Slot.isChild, hbullet]; decide
  | entityFeatures => rw [applies, Slot.featureOwner?, hat]; decide
  | intentModifier => rw [applies, Slot.isIntentModifier, hat]; decide
  | intentFeatures => rw [applies, Slot.isIntentFeature, hat]; decide

end LoneSign

/-! ## The names that are listed -/

namespace Model

/-- The names that stand beside the kinds: first those of entities that are no phrase lists, then
those that only patterns mention, each once, and no name that reads as a keyword. -/
def suggestedNames (m : Model) : List Text :=
  (((m.entities.filter fun e => e.kind ≠ .phraseList).map Entity.name).eraseDups
    ++ m.mentionedNames.eraseDups).filter fun name => (EntityKind.ofKeyword? name).isNone

theorem suggestedNames_eq (m : Model) :
    m.suggestedNames
      = (m.entityNames EntityKind.referable).filter
          fun name => (EntityKind.ofKeyword? name).isNone := by
  have hkinds (e : Entity) : decide (e.kind ∈ EntityKind.referable)
      = decide (e.kind ≠ .phraseList) := by
    cases e.kind <;> decide
  rw [suggestedNames, entityNames_eq, namesOfKinds, if_pos (by decide)]
  simp only [hkinds]

end Model

theorem EntityKind.nodup_keywords : (EntityKind.all.map EntityKind.keyword).Nodup := by
  decide

/-- No name beside the kinds is one of their keywords. -/
theorem nodup_keywords_append {names : List Text} (h : names.Nodup) :
    (EntityKind.all.map EntityKind.keyword
      ++ names.filter fun name => (EntityKind.ofKeyword? name).isNone).Nodup := by
  refine List.nodup_append.mpr ⟨EntityKind.nodup_keywords, h.filter _, ?_⟩
  rintro keyword hkeyword name hname rfl
  obtain ⟨k, -, rfl⟩ := List.mem_map.mp hkeyword
  have hnone := (List.mem_filter.mp hname).2
  rw [EntityKind.ofKeyword?_keyword] at hnone
  cases hnone

/-- Where two rules apply, what they list is all that is listed. -/
theorem labels_complete {text : Text} {p : Position} (culture : Text)
    (happlies : ∀ r : Rule,
      r.applies (text.upToCaret p) = true ↔ r = .kinds ∨ r = .definedEntities) :
    (complete text p culture).value.map Item.label
      = EntityKind.all.map EntityKind.keyword
        ++ (namesOf (extractAround? text p.line culture).value EntityKind.referable).filter
            fun name => (EntityKind.ofKeyword? name).isNone := by
  have hlisted (r : Rule) : Rule.listed (.ofPosition text p culture) r
      = if r = .kinds ∨ r = .definedEntities
        then r.found (extractAround? text p.line culture).value (text.upToCaret p) else [] := by
    simp only [← happlies]
    rfl
  have hall : Rule.all.flatMap (Rule.listed (.ofPosition text p culture))
      = Rule.kinds.found (extractAround? text p.line culture).value (text.upToCaret p)
        ++ Rule.definedEntities.found (extractAround? text p.line culture).value
            (text.upToCaret p) := by
    rw [funext hlisted]
    simp [Rule.all]
  rw [value_complete, hall, List.map_append, Rule.found, Rule.found, List.map_map, List.map_map]
  exact congrArg (EntityKind.all.map EntityKind.keyword ++ ·) (List.map_id _)

/-- The text that the model around a line is read from. -/
theorem exists_source {text culture : Text} {n : Nat} {m : Model}
    (h : (extractAround? text n culture).value = some m) :
    ∃ source, parse source culture = .ok m ∧
      (source = text ∨ (parse text culture).toOption = none ∧ source = text.withoutLine n) := by
  rw [value_extractAround?] at h
  cases hfirst : parse text culture with
  | ok first =>
    rw [hfirst] at h
    exact ⟨text, hfirst.trans (congrArg _ (Option.some.inj h)), .inl rfl⟩
  | error errors =>
    rw [hfirst] at h
    cases hsecond : parse (text.withoutLine n) culture with
    | ok second =>
      rw [hsecond] at h
      exact ⟨_, hsecond.trans (congrArg _ (Option.some.inj h)), .inr ⟨rfl, rfl⟩⟩
    | error errors =>
      rw [hsecond] at h
      cases h

/-- **What is listed after a lone `@`.**  Only the rules for kinds and for names of entities apply.
The labels are distinct: each keyword once, and then the names of the model that is found around
the caret, those of entities other than phrase lists before those that only patterns mention,
except exactly those that read as a keyword.  Entities and mentions stand in the model in the order
of the lines that it was read from. -/
theorem kind_slot_lists_names (text culture : Text) (p : Position) (a b : Text)
    (ha : ∀ c ∈ a, Text.isBlank c = true) (hb : ∀ c ∈ b, Text.isBlank c = true)
    (hcaret : text.upToCaret p = a ++ '@' :: b) :
    let labels := (complete text p culture).value.map Item.label
    let answer := (extractAround? text p.line culture).value
    (∀ r : Rule, r.applies (text.upToCaret p) = true ↔ r = .kinds ∨ r = .definedEntities) ∧
    labels.Nodup ∧
    labels = EntityKind.all.map EntityKind.keyword ++ answer.elim [] Model.suggestedNames ∧
    ∀ m, answer = some m →
      ∃ source, parse source culture = .ok m ∧
        (source = text ∨
          (parse text culture).toOption = none ∧ source = text.withoutLine p.line) ∧
        ∀ k, ((Draft.start culture).after (source.lines.take k)).model.Before m := by
  intro labels answer
  have happlies (r : Rule) :
      r.applies (text.upToCaret p) = true ↔ r = .kinds ∨ r = .definedEntities := by
    rw [hcaret]
    exact Rule.applies_lone_iff ha hb r
  have hlabels := labels_complete culture happlies
  refine ⟨happlies, ?_, ?_, ?_⟩
  · change List.Nodup ((complete text p culture).value.map Item.label)
    rw [hlabels]
    refine nodup_keywords_append ?_
    cases hanswer : (extractAround? text p.line culture).value with
    | none => exact List.nodup_nil
    | some m => exact m.nodup_entityNames EntityKind.referable
  · refine hlabels.trans (congrArg (EntityKind.all.map EntityKind.keyword ++ ·) ?_)
    change _ = (extractAround? text p.line culture).value.elim [] Model.suggestedNames
    cases hanswer : (extractAround? text p.line culture).value with
    | none => rfl
    | some m => exact m.suggestedNames_eq.symm
  · intro m hm
    obtain ⟨source, hparse, hsource⟩ := exists_source hm
    exact ⟨source, hparse, hsource, before_of_parse hparse⟩

/-- A keyword, a phrase list and a repetition are left out. -/
theorem kind_slot_lists_names_mixed :
    let text : Text :=
      "@ ml city\n@ phraselist words\n@ list LIST\n@ regex city\n# Go\n- \x7bplace\x7d\n @\t".toList
    ((∀ c ∈ [' '], Text.isBlank c = true) ∧ (∀ c ∈ ['\t'], Text.isBlank c = true) ∧
      text.upToCaret ⟨6, 3⟩ = [' '] ++ '@' :: ['\t']) ∧
      ((complete text ⟨6, 3⟩ []).value.map Item.label).Nodup ∧
      (complete text ⟨6, 3⟩ []).value.map Item.label
        = EntityKind.all.map EntityKind.keyword ++ ["city".toList, "place".toList] := by
  intro text
  have ha : ∀ c ∈ [' '], Text.isBlank c = true := List.all_eq_true.mp (by decide)
  have hb : ∀ c ∈ ['\t'], Text.isBlank c = true := List.all_eq_true.mp (by decide)
  have hcaret : text.upToCaret ⟨6, 3⟩ = [' '] ++ '@' :: ['\t'] := by decide
  have hnames : (extractAround? text 6 []).value.elim [] Model.suggestedNames
      = ["city".toList, "place".toList] := by
    decide +kernel
  obtain ⟨-, hnodup, hlabels, -⟩ := kind_slot_lists_names text [] ⟨6, 3⟩ _ _ ha hb hcaret
  exact ⟨⟨ha, hb, hcaret⟩, hnodup, hnames ▸ hlabels⟩

/-- A name that is mentioned on a line comes after one that is defined further down. -/
theorem kind_slot_lists_mention_last :
    let text : Text := "# Book\n- on \x7bday\x7d\n@ ml city\n@ ".toList
    ((Draft.start []).after (text.lines.take 2)).model.suggestedNames = ["day".toList] ∧
      (complete text ⟨3, 2⟩ []).value.map Item.label
        = EntityKind.all.map EntityKind.keyword ++ ["city".toList, "day".toList] := by
  decide +kernel

end LuServer
