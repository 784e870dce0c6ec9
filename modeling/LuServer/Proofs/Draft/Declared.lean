/-
# Definitions read back

A document of one definition is read as the entity that the definition describes: what the line says
is all that the model has.

* `parse_definition`: a document of one definition.
* `Draft.finish_define_typed`: what a definition with a kind leads to.
* `typed_definition_read_back`: typed definitions are read back as they are written.
-/
import LuServer.Proofs.Draft.Reading
import LuServer.Proofs.Grammar.Written
import LuServer.Proofs.Model.Names

namespace LuServer

/-! ## Documents of one line -/

/-- A text without line feeds is one line. -/
theorem Text.lines_of_not_mem {t : Text} (h : '\n' ∉ t) : t.lines = [dropReturn t] := by
  rw [lines, rawLines, List.splitOn_eq_singleton h, List.map_singleton]

/-- A definition stands on its line after an `@` and a blank. -/
theorem LineForm.ofLine_definition {t : Text} (ht : t.Tight) :
    ofLine ("@ ".toList ++ t) = .definition (Definition.read t) := by
  have hnone : ∀ b ∈ [], Text.isBlank b = true := fun b hb => absurd hb List.not_mem_nil
  have htrim : Text.trim ("@ ".toList ++ t) = '@' :: Text.trimEnd (' ' :: t) :=
    Text.trim_sign hnone (by decide) (' ' :: t)
  have hdeclared : (Text.trimEnd (' ' :: t)).trim = t := by
    rw [Text.trim_trimEnd]
    exact (Text.trim_blanks_append Text.isBlank_space t).trans ht.trim
  rw [Line.ofLine_cons htrim, if_neg (by decide), if_neg (by decide), if_pos rfl, ofDefinition,
    hdeclared, if_neg ht.ne_nil]

/-- An entity needs no more than an empty body, unless it is a composite. -/
theorem Body.read_of_empty {kind : EntityKind} (name : Text) {body : Option Text}
    (h : body = none ∨ body = some [] ∧ kind ≠ .composite) :
    Body.read kind name (Draft.typedBody kind body) = .ok .nothing ∨
      Body.read kind name (Draft.typedBody kind body) = .ok .block := by
  rcases h with rfl | ⟨rfl, hne⟩
  · cases kind <;> simp [Body.read, Draft.typedBody]
  · cases kind <;> simp_all [Body.read, Draft.typedBody]

/-- A draft of nothing but an entity with its modifiers. -/
theorem Draft.finish_define_typed {kind : EntityKind} (name : Text) (mods : Modifiers)
    {body : Option Text} (h : body = none ∨ body = some [] ∧ kind ≠ .composite) (culture : Text) :
    ((start culture).define (.typed kind name mods body)).2 = none ∧
    ((start culture).define (.typed kind name mods body)).1.finish
      = { culture, entities := [{
          name, kind, roles := mods.roles.eraseDups, features := mods.features.eraseDups }] } := by
  rw [← appendNew_nil_left, ← appendNew_nil_left]
  rcases Body.read_of_empty name h with hbody | hbody <;>
    simp [define, start, Model.ensureEntity, fill, hbody, put, finish, Model.modifyEntity,
      Entity.addModifiers]

/-- A document of one definition is what the definition makes of an empty model. -/
theorem parse_definition {t culture : Text} (ht : t.Tight) (hfeed : '\n' ∉ t)
    {declared : Definition} (hread : Definition.read t = .ok declared)
    (hok : ((Draft.start culture).define declared).2 = none) :
    parse ("@ ".toList ++ t) culture = .ok ((Draft.start culture).define declared).1.finish := by
  have hline : (Draft.start culture).read (Text.dropReturn ("@ ".toList ++ t))
      = (Draft.start culture).define declared := by
    rw [Draft.read_congr (Text.trim_dropReturn _), Draft.read, LineForm.ofLine_definition ht, hread]
    rfl
  rw [parse_eq_ok_iff, rejections_eq, Text.lines_of_not_mem (by simpa using hfeed),
    Draft.rejections_cons, Draft.after_cons, hline, hok]
  exact ⟨rfl, rfl⟩

/-- **Typed definitions are read back as they are written.**  A line of a keyword of some kind, a
name of one word, roles and features behind their keywords in either order, and perhaps an equals
sign, is a document of one entity with this name, this kind and these roles and features, each
once, and of nothing else.  A composite needs more than an equals sign. -/
theorem typed_definition_read_back {keyword name rolesWord featuresWord ending : Text}
    {kind : EntityKind} {roles features : List Text} {order : List (Text × List Text)}
    (hkind : EntityKind.ofKeyword? keyword = some kind) (hname : Name.IsWord name)
    (hprebuilt : kind = .prebuilt → EntityKind.isPrebuiltName name = true)
    (hrolesWord : Modifiers.Spells rolesWord true)
    (hfeaturesWord : Modifiers.Spells featuresWord false)
    (hroles : ∀ n ∈ roles, Modifiers.Listed n) (hfeatures : ∀ n ∈ features, Modifiers.Listed n)
    (horder : order = [(rolesWord, roles), (featuresWord, features)] ∨
      order = [(featuresWord, features), (rolesWord, roles)])
    (hending : ending = [] ∨ ending = " =".toList ∧ kind ≠ .composite) (culture : Text) :
    parse ("@ ".toList ++ (keyword ++ ' ' :: (name ++ Modifiers.written order) ++ ending)) culture
      = .ok { culture, entities := [{
          name, kind, roles := roles.eraseDups, features := features.eraseDups }] } := by
  have hwritable : Modifiers.Writable order := by
    have hclause : ∀ c ∈ [(rolesWord, roles), (featuresWord, features)],
        (∃ forRoles, Modifiers.Spells c.1 forRoles) ∧ ∀ n ∈ c.2, Modifiers.Listed n := by
      refine List.forall_mem_cons.mpr ⟨⟨⟨_, hrolesWord⟩, hroles⟩, ?_⟩
      exact List.forall_mem_singleton.mpr ⟨⟨_, hfeaturesWord⟩, hfeatures⟩
    intro c hc
    refine hclause c ?_
    rcases horder with rfl | rfl
    · exact hc
    · simpa [or_comm] using hc
  have hmodifiers : order.foldl Modifiers.gather {} = ⟨roles, features⟩ := by
    have hr := Modifiers.isRoleWord_of_spells hrolesWord
    have hf := Modifiers.isRoleWord_of_spells hfeaturesWord
    rcases horder with rfl | rfl <;> simp [Modifiers.gather, hr, hf]
  obtain ⟨hplain, hequals⟩ := Definition.read_written hkind hname hprebuilt hwritable
  have htight := Definition.tight_header hkind hname hwritable
  have hfeed := (Definition.uncut_header hkind hname hwritable).not_mem (c := '\n') (by decide)
  rw [hmodifiers] at hplain hequals
  change parse ("@ ".toList ++ (Definition.header keyword name order ++ ending)) culture = _
  rcases hending with rfl | ⟨rfl, hne⟩
  · obtain ⟨hok, hmodel⟩ := Draft.finish_define_typed name ⟨roles, features⟩ (.inl rfl) culture
    rw [List.append_nil, parse_definition htight hfeed hplain hok, hmodel]
  · obtain ⟨hok, hmodel⟩ :=
      Draft.finish_define_typed name ⟨roles, features⟩ (.inr ⟨rfl, hne⟩) culture
    have hsign : Text.Tight ['='] := Text.tight_singleton (by decide)
    have hends : Text.Tight (Definition.header keyword name order ++ " =".toList) :=
      htight.append [' '] hsign
    rw [parse_definition hends (by simpa using hfeed) hequals hok, hmodel]

/-- A phrase list with the name of a keyword, a feature of two words, and a role that only begins
like a keyword. -/
theorem typed_definition_read_back_phrases :
    let text := "@ PhraseList hasRole USESFEATURE last stop, city, city hasroles hasRoleB =".toList
    parse text "en-us".toList = .ok { culture := "en-us".toList, entities := [{
      name := "hasRole".toList
      kind := .phraseList
      roles := ["hasRoleB".toList]
      features := ["last stop".toList, "city".toList] }] } := by
  intro text
  have hkind : EntityKind.ofKeyword? "PhraseList".toList = some .phraseList := by decide
  have hname : Name.IsWord "hasRole".toList := ⟨by decide, List.all_eq_true.mp (by decide)⟩
  have hroles : ∀ n ∈ ["hasRoleB".toList], Modifiers.Listed n := by decide +kernel
  have hfeatures :
      ∀ n ∈ ["last stop".toList, "city".toList, "city".toList], Modifiers.Listed n := by
    decide +kernel
  have hrolesWord : Modifiers.Spells "hasroles".toList true := .roles (by decide)
  have hfeaturesWord : Modifiers.Spells "USESFEATURE".toList false := .features (by decide)
  exact typed_definition_read_back hkind hname (by decide) hrolesWord hfeaturesWord hroles hfeatures
    (.inr rfl) (.inr ⟨rfl, by decide⟩) _

end LuServer
