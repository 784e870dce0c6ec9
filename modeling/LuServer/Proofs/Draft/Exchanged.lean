/-
# A body before its kind

A definition without a kind can stand above the one that has it.  Its modifiers wait for the
kind, but its body does not: a body is read by the kind that the name has on its line, and without
a kind it is passed over.  So a pattern that is given to a name counts below the definition of the
name as a regex and is lost above it, and either way the same lines are taken.

* `Model.patternOf?`: the pattern of the first entity with a name.
* `LineForm.subject?`: the name of the entity that a line is about.
* `Draft.patternOf?_read`, `Draft.patternOf?_after`: only lines about the name can change it.
* `Draft.AgreeBut`: drafts that differ in what one name is.
* `Draft.AgreeBut.after`: they take the same lines about other names.
* `separated_body_by_order`: what becomes of the pattern in the two orders.
-/
import LuServer.Proofs.Draft.Declared
import LuServer.Proofs.Draft.Fallback
import LuServer.Proofs.Draft.Kept
import LuServer.Proofs.Draft.WellFormed

namespace LuServer

/-! ## Patterns -/

namespace Model

/-- The pattern of the first entity with a name, if there is an entity. -/
def patternOf? (m : Model) (name : Text) : Option (Option Text) :=
  (m.entity? name).map Entity.pattern

theorem patternOf?_modifyEntity {f : Entity → Entity} (hf : Entity.Keeps f)
    (hpattern : ∀ e, (f e).pattern = e.pattern) (m : Model) (i : Nat) (name : Text) :
    (m.modifyEntity i f).patternOf? name = m.patternOf? name :=
  map_entity?_modifyEntity hf hpattern m i name

theorem patternOf?_ensureIntent (m : Model) (intent name : Text) :
    (m.ensureIntent intent).1.patternOf? name = m.patternOf? name := by
  rw [patternOf?, entity?_ensureIntent, patternOf?]

theorem patternOf?_ensureEntity (m : Model) (name : Text) (kind : EntityKind) (x : Text) :
    (m.ensureEntity name kind).1.patternOf? x
      = (m.patternOf? x).or (if x = name then some none else none) := by
  rw [patternOf?, entity?_ensureEntity, Option.map_or, patternOf?]
  congr 1
  split <;> rfl

theorem kindOf?_eq_none_iff {m : Model} {name : Text} :
    m.kindOf? name = none ↔ m.patternOf? name = none := by
  rw [kindOf?, patternOf?, Option.map_eq_none_iff, Option.map_eq_none_iff]

/-- The place of a name is not that of an entity with another name. -/
theorem placeOf?_ne {m : Model} {i : Nat} {e : Entity} (he : m.entities[i]? = some e) {name : Text}
    (hne : e.name ≠ name) : m.placeOf? name ≠ some i := by
  intro hi
  rcases m.place_cases name with ⟨j, f, hj, -, hf, hname⟩ | ⟨hnone, -⟩
  · obtain rfl : j = i := Option.some.inj (hj.symm.trans hi)
    obtain rfl : f = e := Option.some.inj (hf.symm.trans he)
    exact hne hname
  · rw [hnone] at hi
    cases hi

end Model

/-! ## Lines about other names -/

/-- The name of the entity that a definition is about. -/
def Definition.subject? : Definition → Option Text
  | intent _ _ => none
  | typed _ name _ _ => some name
  | separated name _ _ => some name

/-- The name of the entity that a line is about: one that it defines or adds to, or a child. -/
def LineForm.subject? : LineForm → Option Text
  | definition (.ok declared) => declared.subject?
  | item content => (Child.read content).toOption.map Child.name
  | _ => none

theorem LineForm.subject?_of_bodyFor? {form : LineForm} {name : Text}
    (h : form.bodyFor? = some name) : form.subject? = some name := by
  unfold bodyFor? at h
  split at h
  · next declared =>
    unfold Definition.bodyFor? at h
    split at h
    · exact h
    · cases h
  · cases h

namespace Draft

variable {name : Text}

theorem patternOf?_fill {d : Draft} {i : Nat} (hi : d.model.placeOf? name ≠ some i)
    (kind : EntityKind) (other : Text) (body : Option Text) :
    (d.fill i kind other body).1.model.patternOf? name = d.model.patternOf? name := by
  unfold fill
  split
  · next b _ =>
    cases b with
    | nothing => rfl
    | block => rfl
    | pattern text =>
      rw [Model.patternOf?, put, Model.entity?_modifyEntity (Entity.keeps_pattern text), if_neg hi]
      rfl
    | parts names =>
      exact Model.patternOf?_modifyEntity (Entity.keeps_addChildren names) (fun _ => rfl) _ _ _
    | phrases words =>
      exact Model.patternOf?_modifyEntity (Entity.keeps_addPhrases words) (fun _ => rfl) _ _ _
  · rfl

/-- A body goes to the entity that the definition is about. -/
theorem patternOf?_define (d : Draft) {declared : Definition}
    (hother : declared.subject? ≠ some name) :
    (d.define declared).1.model.patternOf? name = d.model.patternOf? name := by
  cases declared with
  | intent intent features => exact Model.patternOf?_ensureIntent d.model intent name
  | typed kind other modifiers body =>
    have hne : name ≠ other := fun h => hother (congrArg some h.symm)
    obtain ⟨e, he, hkey⟩ := d.model.getElem?_ensureEntity other kind
    obtain ⟨f, hf, hef⟩ := (Model.extends_modifyEntity (Entity.keeps_addModifiers modifiers)
      (d.model.ensureEntity other kind).1 (d.model.ensureEntity other kind).2).grown _ _ he
    have hname : f.name = other := hef.name.trans (congrArg Prod.fst hkey)
    rw [define]
    dsimp only
    rw [patternOf?_fill (Model.placeOf?_ne hf (by rw [hname]; exact hne.symm)),
      Model.patternOf?_modifyEntity (Entity.keeps_addModifiers modifiers) (fun _ => rfl),
      Model.patternOf?_ensureEntity, if_neg hne, Option.or_none]
  | separated other modifiers body =>
    have hne : other ≠ name := fun h => hother (congrArg some h)
    rcases d.model.place_cases other with ⟨i, e, hi, he, hget, hname⟩ | ⟨hi, -⟩
    · obtain ⟨f, hf, hef⟩ := (Model.extends_modifyEntity (Entity.keeps_addModifiers modifiers)
        { d.model with references := d.model.references ++ [other] } i).grown i e hget
      rw [define_separated_of_some hi he,
        patternOf?_fill (Model.placeOf?_ne hf (by rw [hef.name, hname]; exact hne)),
        Model.patternOf?_modifyEntity (Entity.keeps_addModifiers modifiers) (fun _ => rfl)]
      rfl
    · rw [define_separated_of_none hi]
      rfl

/-- Bullets say nothing about patterns; a child can be a new entity without one. -/
theorem patternOf?_item (d : Draft) {content : Text}
    (hother : (LineForm.item content).subject? ≠ some name) :
    (d.item content).1.model.patternOf? name = d.model.patternOf? name := by
  have htakes := takes_item d content
  generalize d.item content = result at htakes ⊢
  cases htakes with
  | rejected fault => rfl
  | utterance => rfl
  | value =>
    exact Model.patternOf?_modifyEntity (Entity.keeps_addValue _) (fun _ => rfl) _ _ _
  | synonym =>
    exact Model.patternOf?_modifyEntity (Entity.keeps_addSynonym _ _) (fun _ => rfl) _ _ _
  | @child i c _ hchild =>
    have hne : name ≠ c.name := by
      rintro rfl
      exact hother (by rw [LineForm.subject?, hchild]; rfl)
    dsimp only
    rw [Model.patternOf?_modifyEntity (Entity.keeps_addChildren _) (fun _ => rfl),
      Model.patternOf?_modifyEntity (Entity.keeps_addModifiers _) (fun _ => rfl),
      Model.patternOf?_ensureEntity, if_neg hne, Option.or_none]
  | phrases =>
    exact Model.patternOf?_modifyEntity (Entity.keeps_addPhrases _) (fun _ => rfl) _ _ _

theorem patternOf?_read (d : Draft) {l : Text} (hother : (LineForm.ofLine l).subject? ≠ some name) :
    (d.read l).1.model.patternOf? name = d.model.patternOf? name := by
  unfold read
  cases hform : LineForm.ofLine l with
  | inert => rfl
  | header intent => exact Model.patternOf?_ensureIntent d.model intent name
  | definition result =>
    cases result with
    | error fault => rfl
    | ok declared =>
      rw [hform] at hother
      exact patternOf?_define { d with block := .outside } hother
  | item content =>
    rw [hform] at hother
    exact patternOf?_item d hother
  | rejected fault => rfl

theorem patternOf?_after (d : Draft) {ls : List Text}
    (hothers : ∀ l ∈ ls, (LineForm.ofLine l).subject? ≠ some name) :
    (d.after ls).model.patternOf? name = d.model.patternOf? name := by
  induction ls generalizing d with
  | nil => rfl
  | cons l ls ih =>
    obtain ⟨hl, hls⟩ := List.forall_mem_cons.mp hothers
    rw [after_cons, ih (d.read l).1 hls, patternOf?_read d hl]

theorem patternOf?_finish (d : Draft) (name : Text) :
    d.finish.patternOf? name = d.model.patternOf? name :=
  map_entity?_foldl_addModifiers (fun _ _ => rfl) d.model d.deferred name

/-! ## Drafts that differ in one name -/

/-- Outside of blocks, two drafts agree on the kinds of all names but one. -/
structure AgreeBut (name : Text) (d e : Draft) : Prop where
  left : d.block = .outside
  right : e.block = .outside
  kinds : ∀ x, x ≠ name → d.model.kindOf? x = e.model.kindOf? x

theorem AgreeBut.symm {d e : Draft} (h : AgreeBut name d e) : AgreeBut name e d :=
  ⟨h.right, h.left, fun x hx => (h.kinds x hx).symm⟩

/-- They take the same lines about other names, and agree again below them. -/
theorem AgreeBut.after {d e : Draft} (h : AgreeBut name d e) {ls : List Text}
    (hothers : ∀ l ∈ ls, (LineForm.ofLine l).subject? ≠ some name) {k : Nat}
    (hok : d.rejections k ls = []) :
    e.rejections k ls = [] ∧
      ∀ x, x ≠ name → (d.after ls).model.kindOf? x = (e.after ls).model.kindOf? x := by
  have hbacks : Backs (· = name) ls d e := by
    refine ⟨fun _ => ?_, h.kinds⟩
    rw [h.left]
    exact .outside _
  have hspares : ∀ above l below x, ls = above ++ l :: below →
      (LineForm.ofLine l).bodyFor? = some x → x = name →
      Spares (d.after above) (e.after above) l below := by
    rintro above l below x hls hbody rfl
    have hl : l ∈ ls := hls ▸ List.mem_append_right _ List.mem_cons_self
    exact absurd (LineForm.subject?_of_bodyFor? hbody) (hothers l hl)
  obtain ⟨hrejections, hafter⟩ := backs_after hbacks hspares hok
  exact ⟨hrejections, hafter.kinds⟩

/-! ## The definition and the body -/

/-- The line that defines a regex of this name. -/
def regexLine (name : Text) : Text :=
  "@ regex ".toList ++ name

/-- The line that gives a name a pattern. -/
def patternLine (name p : Text) : Text :=
  "@ ".toList ++ (name ++ " = /".toList ++ p ++ "/".toList)

theorem ofLine_regexLine (hname : Name.IsWord name) :
    LineForm.ofLine (regexLine name) = .definition (.ok (.typed .regex name {} none)) := by
  have hkind : EntityKind.ofKeyword? "regex".toList = some .regex := by decide
  have hnone : Modifiers.Writable [] := fun c hc => absurd hc List.not_mem_nil
  have hread := (Definition.read_written hkind hname (fun h => absurd h (by decide)) hnone).1
  have hform := LineForm.ofLine_definition (Definition.tight_header hkind hname hnone)
  rw [hread, Definition.header, Modifiers.written, List.flatMap_nil, List.append_nil] at hform
  exact hform

theorem ofLine_patternLine (hname : Name.IsWord name) (hkind : EntityKind.ofKeyword? name = none)
    (hintent : name.asciiLower ≠ "intent".toList) (p : Text) :
    LineForm.ofLine (patternLine name p)
      = .definition (.ok (.separated name {} (some ('/' :: (p ++ ['/']))))) := by
  have hsign : Text.Tight ['/'] := Text.tight_singleton (by decide)
  have hnone : Modifiers.Writable [] := fun c hc => absurd hc List.not_mem_nil
  have hbody : Text.trim (' ' :: '/' :: (p ++ ['/'])) = '/' :: (p ++ ['/']) :=
    (Text.trim_blanks_append Text.isBlank_space _).trans (hsign.append p hsign).trim
  have hread := Definition.read_written_separated hname hkind hintent hnone
    (' ' :: '/' :: (p ++ ['/']))
  have htext : name ++ Modifiers.written [] ++ ' ' :: '=' :: ' ' :: '/' :: (p ++ ['/'])
      = name ++ " = /".toList ++ p ++ "/".toList := by
    simp [Modifiers.written]
  have htight : Text.Tight (name ++ " = /".toList ++ p ++ "/".toList) := by
    have htight := hname.tight.append (" = /".toList ++ p) hsign
    simpa using htight
  rw [htext, hbody] at hread
  rw [patternLine, LineForm.ofLine_definition htight, hread]
  rfl

/-- The definition gives the name its kind, and an entity without a pattern if it had none. -/
theorem read_regexLine (hname : Name.IsWord name) {d : Draft}
    (hnone : d.model.kindOf? name = none) :
    (d.read (regexLine name)).2 = none ∧ (d.read (regexLine name)).1.block = .outside ∧
      (d.read (regexLine name)).1.model.patternOf? name = some none ∧
      ∀ x, (d.read (regexLine name)).1.model.kindOf? x
        = (d.model.kindOf? x).or (if x = name then some .regex else none) := by
  rw [read, ofLine_regexLine hname]
  refine ⟨rfl, rfl, ?_, ?_⟩
  · change ((d.model.ensureEntity name .regex).1.modifyEntity (d.model.ensureEntity name .regex).2
      (·.addModifiers {})).patternOf? name = some none
    rw [Model.patternOf?_modifyEntity (Entity.keeps_addModifiers {}) (fun _ => rfl),
      Model.patternOf?_ensureEntity, Model.kindOf?_eq_none_iff.mp hnone, if_pos rfl]
    rfl
  · exact kindOf?_define { d with block := .outside } (.typed .regex name {} none)

theorem between?_slashes (p : Text) : Text.between? '/' '/' ('/' :: (p ++ ['/'])) = some p := by
  simp [Text.between?, Text.dropHead?, Text.dropLast?]

/-- The pattern is given to an entity that is there, and to no other. -/
theorem read_patternLine (hname : Name.IsWord name) (hkind : EntityKind.ofKeyword? name = none)
    (hintent : name.asciiLower ≠ "intent".toList) (p : Text) {d : Draft}
    (hd : d.model.kindOf? name = none ∨ d.model.kindOf? name = some .regex) :
    (d.read (patternLine name p)).2 = none ∧ (d.read (patternLine name p)).1.block = .outside ∧
      (d.read (patternLine name p)).1.model.patternOf? name
        = (d.model.kindOf? name).map (fun _ => some p) ∧
      ∀ x, (d.read (patternLine name p)).1.model.kindOf? x = d.model.kindOf? x := by
  have hkinds : ∀ x, (d.read (patternLine name p)).1.model.kindOf? x = d.model.kindOf? x := by
    intro x
    rw [read, ofLine_patternLine hname hkind hintent]
    exact (kindOf?_define { d with block := .outside } _ x).trans Option.or_none
  refine and_assoc.mp (and_assoc.mp ⟨?_, hkinds⟩)
  rw [read, ofLine_patternLine hname hkind hintent, apply]
  rcases d.model.kindOf?_cases name with ⟨i, e, hi, he, hkinde⟩ | ⟨hi, hnone⟩
  · have hregex : e.kind = .regex := by
      rcases hd with hd | hd
      · rw [hkinde] at hd
        cases hd
      · exact Option.some.inj (hkinde.symm.trans hd)
    have hread : Body.read e.kind name (some ('/' :: (p ++ ['/']))) = .ok (.pattern p) := by
      rw [hregex]
      simp [Body.read, between?_slashes]
    rw [define_separated_of_some (d := { d with block := .outside }) hi he, fill, hread, hkinde]
    refine ⟨⟨rfl, rfl⟩, ?_⟩
    generalize hm : { d.model with references := d.model.references ++ [name] } = m
    have hplace : (m.modifyEntity i (·.addModifiers {})).placeOf? name = some i :=
      (Model.placeOf?_modifyEntity (Entity.keeps_addModifiers {}) m i name).trans (hm ▸ hi)
    have hentity : (m.modifyEntity i (·.addModifiers {})).entity? name
        = some (e.addModifiers {}) := by
      have hfirst : m.placeOf? name = some i ∧ m.entity? name = some e := hm ▸ ⟨hi, he⟩
      rw [Model.entity?_modifyEntity (Entity.keeps_addModifiers {}), if_pos hfirst.1, hfirst.2]
      rfl
    change (Model.modifyEntity _ i _).patternOf? name = _
    rw [Model.patternOf?, Model.entity?_modifyEntity (Entity.keeps_pattern p), if_pos hplace,
      hentity]
    rfl
  · rw [define_separated_of_none (d := { d with block := .outside }) hi, hnone]
    refine ⟨⟨rfl, rfl⟩, ?_⟩
    exact Model.kindOf?_eq_none_iff.mp hnone

/-! ## The two orders -/

/-- Drafts that agree but in one name take the same lines, with two lines about this name in
different places, if each takes its own and they agree again below. -/
theorem AgreeBut.rejections {d e : Draft} (h : AgreeBut name d e) {a b : Text}
    {between after : List Text}
    (hbetween : ∀ l ∈ between, (LineForm.ofLine l).subject? ≠ some name)
    (hafter : ∀ l ∈ after, (LineForm.ofLine l).subject? ≠ some name)
    (hb : ((e.after between).read b).2 = none)
    (hagain : (∀ x, x ≠ name →
        (d.after between).model.kindOf? x = (e.after between).model.kindOf? x) →
      AgreeBut name ((d.after between).read a).1 ((e.after between).read b).1) {k : Nat}
    (hok : d.rejections k (between ++ a :: after) = []) :
    e.rejections k (between ++ b :: after) = [] := by
  rw [rejections_append, rejections_cons, List.append_eq_nil_iff, List.append_eq_nil_iff] at hok ⊢
  obtain ⟨hfirst, -, hrest⟩ := hok
  obtain ⟨hfirst', hkinds⟩ := h.after hbetween hfirst
  exact ⟨hfirst', rejection_eq_nil.mpr hb, ((hagain hkinds).after hafter hrest).1⟩

variable (hname : Name.IsWord name) (hkind : EntityKind.ofKeyword? name = none)
  (hintent : name.asciiLower ≠ "intent".toList) (p : Text) {d : Draft}
  (hnone : d.model.kindOf? name = none) {between after : List Text}
  (hbetween : ∀ l ∈ between, (LineForm.ofLine l).subject? ≠ some name)
include hname hkind hintent hnone hbetween

/-- Below its definition the name is a regex, and below its pattern alone it is nothing. -/
theorem kindOf?_between :
    ((d.read (regexLine name)).1.after between).model.kindOf? name = some .regex ∧
      ((d.read (patternLine name p)).1.after between).model.kindOf? name = none := by
  obtain ⟨-, -, -, hregex⟩ := read_regexLine hname hnone
  obtain ⟨-, -, -, hpattern⟩ := read_patternLine hname hkind hintent p (.inl hnone)
  constructor
  · refine Model.kindOf?_of_keys (extends_after _ between).entities ?_
    rw [hregex, hnone, if_pos rfl]
    rfl
  · rw [Model.kindOf?_eq_none_iff, patternOf?_after _ hbetween, ← Model.kindOf?_eq_none_iff,
      hpattern, hnone]

variable (hafter : ∀ l ∈ after, (LineForm.ofLine l).subject? ≠ some name)
include hafter

/-- Either order is taken if the other one is. -/
theorem rejections_exchanged (k : Nat) :
    d.rejections k (regexLine name :: (between ++ patternLine name p :: after)) = [] ↔
      d.rejections k (patternLine name p :: (between ++ regexLine name :: after)) = [] := by
  obtain ⟨htyped, hnothing⟩ := kindOf?_between hname hkind hintent p hnone hbetween
  obtain ⟨hfault, hblock, -, hkinds⟩ := read_regexLine hname hnone
  obtain ⟨hfault', hblock', -, hkinds'⟩ := read_patternLine hname hkind hintent p (.inl hnone)
  obtain ⟨hlast, hended, -, hsame⟩ := read_patternLine hname hkind hintent p (.inr htyped)
  obtain ⟨hlast', hended', -, hsame'⟩ := read_regexLine hname hnothing
  have hagree : AgreeBut name (d.read (regexLine name)).1 (d.read (patternLine name p)).1 := by
    refine ⟨hblock, hblock', fun x hx => ?_⟩
    rw [hkinds, hkinds', if_neg hx, Option.or_none]
  have hagain (h : ∀ x, x ≠ name →
      ((d.read (regexLine name)).1.after between).model.kindOf? x
        = ((d.read (patternLine name p)).1.after between).model.kindOf? x) :
      AgreeBut name (((d.read (regexLine name)).1.after between).read (patternLine name p)).1
        (((d.read (patternLine name p)).1.after between).read (regexLine name)).1 := by
    refine ⟨hended, hended', fun x hx => ?_⟩
    rw [hsame, hsame', if_neg hx, Option.or_none, h x hx]
  rw [rejections_cons, rejections_cons, rejection_eq_nil.mpr hfault, rejection_eq_nil.mpr hfault']
  constructor
  · exact hagree.rejections hbetween hafter hlast' hagain
  · exact hagree.symm.rejections hbetween hafter hlast
      fun h => (hagain fun x hx => (h x hx).symm).symm

/-- The pattern counts below the definition and is lost above it. -/
theorem patternOf?_exchanged :
    (d.after (regexLine name :: (between ++ patternLine name p :: after))).finish.patternOf? name
        = some (some p) ∧
      (d.after (patternLine name p :: (between ++ regexLine name :: after))).finish.patternOf? name
        = some none := by
  obtain ⟨htyped, hnothing⟩ := kindOf?_between hname hkind hintent p hnone hbetween
  obtain ⟨-, -, hpattern, -⟩ := read_patternLine hname hkind hintent p (.inr htyped)
  obtain ⟨-, -, hnothing', -⟩ := read_regexLine hname hnothing
  rw [htyped] at hpattern
  simp only [patternOf?_finish, after_cons, after_append, patternOf?_after _ hafter]
  exact ⟨hpattern, hnothing'⟩

end Draft

open Draft in
/-- **A body counts only below its kind.**  Exchanging the definition of a regex with the line that
gives its name a pattern, in a text with no other line about the name, does not change whether the
text can be read.  But the entity has the pattern only if the definition stands first. -/
theorem separated_body_by_order {t u culture name : Text} (p : Text)
    {before between after : List Text}
    (hname : Name.IsWord name) (hkind : EntityKind.ofKeyword? name = none)
    (hintent : name.asciiLower ≠ "intent".toList)
    (ht : t.lines = before ++ regexLine name :: (between ++ patternLine name p :: after))
    (hu : u.lines = before ++ patternLine name p :: (between ++ regexLine name :: after))
    (hothers : ∀ l ∈ before ++ (between ++ after), (LineForm.ofLine l).subject? ≠ some name) :
    ((∃ m, parse t culture = .ok m) ↔ ∃ m, parse u culture = .ok m) ∧
      (∀ m, parse t culture = .ok m → m.patternOf? name = some (some p)) ∧
      ∀ m, parse u culture = .ok m → m.patternOf? name = some none := by
  obtain ⟨hbefore, hrest⟩ := List.forall_mem_append.mp hothers
  obtain ⟨hbetween, hafter⟩ := List.forall_mem_append.mp hrest
  have hnone : ((start culture).after before).model.kindOf? name = none := by
    rw [Model.kindOf?_eq_none_iff, patternOf?_after _ hbefore]
    rfl
  obtain ⟨hcounts, hlost⟩ := patternOf?_exchanged hname hkind hintent p hnone hbetween hafter
  have hexchanged := rejections_exchanged hname hkind hintent p hnone hbetween hafter
  simp only [parse_eq_ok_iff, rejections_eq, ht, hu, rejections_append, after_append,
    List.append_eq_nil_iff, hexchanged]
  refine ⟨?_, ?_, ?_⟩
  · simp
  · rintro m ⟨-, rfl⟩
    exact hcounts
  · rintro m ⟨-, rfl⟩
    exact hlost

open Draft in
/-- The two lines among others. -/
theorem separated_body_by_order_among :
    let t : Text := "@ ml city\n@ regex zip\n> zip\n@ zip = /x=y/\n@ city usesFeature zip".toList
    let u : Text := "@ ml city\n@ zip = /x=y/\n> zip\n@ regex zip\n@ city usesFeature zip".toList
    (∃ m, parse t [] = .ok m ∧ m.patternOf? "zip".toList = some (some "x=y".toList)) ∧
      ∃ m, parse u [] = .ok m ∧ m.patternOf? "zip".toList = some none := by
  intro t u
  have hname : Name.IsWord "zip".toList := ⟨by decide, List.all_eq_true.mp (by decide)⟩
  have ht : t.lines = ["@ ml city".toList] ++ regexLine "zip".toList
      :: (["> zip".toList] ++ patternLine "zip".toList "x=y".toList
        :: ["@ city usesFeature zip".toList]) := by
    decide +kernel
  have hu : u.lines = ["@ ml city".toList] ++ patternLine "zip".toList "x=y".toList
      :: (["> zip".toList] ++ regexLine "zip".toList :: ["@ city usesFeature zip".toList]) := by
    decide +kernel
  have hboth : ((∃ m, parse t [] = .ok m) ↔ ∃ m, parse u [] = .ok m) ∧ _ :=
    separated_body_by_order _ hname (by decide) (by decide) ht hu (by decide +kernel)
  obtain ⟨hiff, hcounts, hlost⟩ := hboth
  have hparse : ∃ m, parse t [] = .ok m := by
    have hok : (parse t []).toOption.isSome = true := by decide +kernel
    cases hresult : parse t [] with
    | ok m => exact ⟨m, rfl⟩
    | error errors => simp [hresult, Except.toOption] at hok
  obtain ⟨m, hm⟩ := hparse
  obtain ⟨n, hn⟩ := hiff.mp ⟨m, hm⟩
  exact ⟨⟨m, hm, hcounts m hm⟩, n, hn, hlost n hn⟩

/-- Nothing else is said of the pattern that is lost, not even that a line is rejected. -/
theorem separated_body_lost_above :
    parse "@ regex zip\n@ zip = /x/".toList [] = .ok {
      entities := [{ name := "zip".toList, kind := .regex, pattern := some "x".toList }]
      references := ["zip".toList] } ∧
    parse "@ zip = /x/\n@ regex zip".toList [] = .ok {
      entities := [{ name := "zip".toList, kind := .regex }]
      references := ["zip".toList] } := by
  decide +kernel

end LuServer
