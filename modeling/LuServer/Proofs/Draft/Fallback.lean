/-
# Reading on without a rejected line

When a text cannot be read because of the line being typed, the model is taken from its other
lines.  A later line depends on what stands above it in two ways only: a bullet needs a block
that takes it, and a body is read by the kind that its name has.  A rejected line opens no
block, so no bullet needs it; but a definition that is rejected for its body has by then given
its name a kind, and a later line that gives the name a body can need that, or the bullets of
the block which it opens.

Bullets need more of a block than to be taken.  A child introduces an entity where a phrase does
not, and lines further down can need that entity.  So a line that opens a block of another kind is
not spared if a bullet is next, even if that bullet is taken in a block of either kind.

* `Draft.kindOf?_define`: what a definition does to the kinds of names.
* `Block.Admits`, `Draft.Backs`: a draft that takes every line which another takes.
* `Draft.backs_read`, `Draft.backs_after`: a line keeps this, and so do all lines.
* `Draft.backs_of_fault`: the draft before a rejected line stands in for the draft after it.
* `NeededBelow`: a line needs the kind, or opens a block of another kind above a bullet.
* `fallback_of_only_rejected`: the other lines can be read, unless one of them needs the kind.
-/
import LuServer.Proofs.Draft.Growth
import LuServer.Proofs.Draft.Isolation

namespace LuServer

/-! ## Kinds of names -/

namespace Model

theorem kindOf?_ensureIntent (m : Model) (intent name : Text) :
    (m.ensureIntent intent).1.kindOf? name = m.kindOf? name := by
  rw [kindOf?, entity?_ensureIntent, kindOf?]

/-- A name gets its kind from the first entity that has it. -/
theorem kindOf?_ensureEntity (m : Model) (name : Text) (kind : EntityKind) (x : Text) :
    (m.ensureEntity name kind).1.kindOf? x
      = (m.kindOf? x).or (if x = name then some kind else none) := by
  rw [kindOf?, entity?_ensureEntity, Option.map_or, kindOf?]
  congr 1
  split <;> rfl

theorem kindOf?_addChild (m : Model) (i : Nat) (c : Child) (x : Text) :
    (((m.ensureEntity c.name c.kind).1.modifyEntity (m.ensureEntity c.name c.kind).2
      (·.addModifiers c.modifiers)).modifyEntity i (·.addChildren [c.name])).kindOf? x
      = (m.kindOf? x).or (if x = c.name then some c.kind else none) := by
  rw [kindOf?_modifyEntity (Entity.keeps_addChildren [c.name]),
    kindOf?_modifyEntity (Entity.keeps_addModifiers c.modifiers), kindOf?_ensureEntity]

/-- The kind of a name says whether it has an entity, and where its body goes. -/
theorem kindOf?_cases (m : Model) (name : Text) :
    (∃ i e, m.placeOf? name = some i ∧ m.entity? name = some e ∧ m.kindOf? name = some e.kind) ∨
    (m.placeOf? name = none ∧ m.kindOf? name = none) := by
  rcases m.place_cases name with ⟨i, e, hi, he, -⟩ | ⟨hi, he, -⟩
  · exact .inl ⟨i, e, hi, he, by rw [kindOf?, he]; rfl⟩
  · exact .inr ⟨hi, by rw [kindOf?, he]; rfl⟩

end Model

namespace Definition

/-- The kind that a definition gives a name. -/
def kindFor? (x : Text) : Definition → Option EntityKind
  | typed kind name _ _ => if x = name then some kind else none
  | _ => none

/-- The name that a definition gives a body without giving it a kind. -/
def bodyFor? : Definition → Option Text
  | separated name _ (some _) => some name
  | _ => none

end Definition

/-- The name that a line gives a body without giving it a kind. -/
def LineForm.bodyFor? : LineForm → Option Text
  | definition (.ok declared) => declared.bodyFor?
  | _ => none

namespace Draft

theorem kindOf?_put (d : Draft) (i : Nat) (kind : EntityKind) (b : Body) (x : Text) :
    (d.put i kind b).model.kindOf? x = d.model.kindOf? x := by
  cases b with
  | nothing => rfl
  | block => rfl
  | pattern text => exact Model.kindOf?_modifyEntity (Entity.keeps_pattern text) _ _ _
  | parts names => exact Model.kindOf?_modifyEntity (Entity.keeps_addChildren names) _ _ _
  | phrases words => exact Model.kindOf?_modifyEntity (Entity.keeps_addPhrases words) _ _ _

theorem kindOf?_fill (d : Draft) (i : Nat) (kind : EntityKind) (name : Text) (body : Option Text)
    (x : Text) : (d.fill i kind name body).1.model.kindOf? x = d.model.kindOf? x := by
  unfold fill
  split
  · exact kindOf?_put d i kind _ x
  · rfl

/-- A definition gives a kind to its own name at most, and only if the name has none. -/
theorem kindOf?_define (d : Draft) (declared : Definition) (x : Text) :
    (d.define declared).1.model.kindOf? x = (d.model.kindOf? x).or (declared.kindFor? x) := by
  cases declared with
  | intent name features =>
    exact (Model.kindOf?_ensureIntent d.model name x).trans Option.or_none.symm
  | typed kind name modifiers body =>
    rw [define]
    dsimp only
    rw [kindOf?_fill, Model.kindOf?_modifyEntity (Entity.keeps_addModifiers modifiers),
      Model.kindOf?_ensureEntity]
    rfl
  | separated name modifiers body =>
    refine Eq.trans ?_ Option.or_none.symm
    rcases d.model.place_cases name with ⟨i, e, hi, he, -⟩ | ⟨hi, -⟩
    · rw [define_separated_of_some hi he, kindOf?_fill]
      exact Model.kindOf?_modifyEntity (Entity.keeps_addModifiers modifiers) _ i x
    · rw [define_separated_of_none hi]
      rfl

end Draft

/-! ## Blocks -/

/-- The second block takes every bullet that the first one takes.  It does not matter which
intent, entity or value the bullet goes to. -/
inductive Block.Admits : Block → Block → Prop
  /-- Outside of blocks there are no bullets to take. -/
  | outside (b : Block) : Admits .outside b
  | intent (i j : Nat) : Admits (.intent i) (.intent j)
  | list (i j : Nat) {v w : Option Nat} (h : v.isSome = w.isSome) : Admits (.list i v) (.list j w)
  | ml (i j : Nat) : Admits (.ml i) (.ml j)
  | phraseList (i j : Nat) : Admits (.phraseList i) (.phraseList j)

theorem Block.Admits.refl (b : Block) : b.Admits b := by
  cases b with
  | outside => exact .outside _
  | intent i => exact .intent i i
  | list i v => exact .list i i rfl
  | ml i => exact .ml i i
  | phraseList i => exact .phraseList i i

theorem Block.admits_ofKind (kind : EntityKind) (i j : Nat) :
    (Block.ofKind kind i).Admits (.ofKind kind j) := by
  cases kind with
  | ml => exact .ml i j
  | list => exact .list i j rfl
  | phraseList => exact .phraseList i j
  | prebuilt => exact .outside _
  | regex => exact .outside _
  | composite => exact .outside _
  | patternAny => exact .outside _

namespace Draft

/-- The next line that is not inert is a bullet. -/
def bulletNext : List Text → Bool
  | [] => false
  | l :: ls =>
    match LineForm.ofLine l with
    | .inert => bulletNext ls
    | .item _ => true
    | _ => false

/-- The second draft stands in for the first above the lines `below`: names have the same kind,
except those in doubt, and a bullet that comes next is taken as it was by the first. -/
structure Backs (doubt : Text → Prop) (below : List Text) (d e : Draft) : Prop where
  block : bulletNext below = true → d.block.Admits e.block
  kinds : ∀ x, ¬ doubt x → d.model.kindOf? x = e.model.kindOf? x

section Backs

variable {doubt : Text → Prop} {below rest : List Text} {d e : Draft}

/-! ## Bullets -/

/-- What leaves the kinds alone in both drafts keeps this, if the block that it leaves behind is
right. -/
theorem Backs.of_kinds (h : Backs doubt below d e) {d' e' : Draft}
    (hblock : d'.block.Admits e'.block) (hd : ∀ x, d'.model.kindOf? x = d.model.kindOf? x)
    (he : ∀ x, e'.model.kindOf? x = e.model.kindOf? x) : Backs doubt rest d' e' :=
  ⟨fun _ => hblock, fun x hx => (hd x).trans ((h.kinds x hx).trans (he x).symm)⟩

/-- What gives the same kinds in both drafts keeps this as well. -/
theorem Backs.of_or (h : Backs doubt below d e) {d' e' : Draft}
    (hblock : bulletNext rest = true → d'.block.Admits e'.block) {new : Text → Option EntityKind}
    (hd : ∀ x, d'.model.kindOf? x = (d.model.kindOf? x).or (new x))
    (he : ∀ x, e'.model.kindOf? x = (e.model.kindOf? x).or (new x)) : Backs doubt rest d' e' :=
  ⟨hblock, fun x hx => by rw [hd, he, h.kinds x hx]⟩

/-- A bullet that the first draft takes, the second takes too. -/
theorem backs_item (h : Backs doubt below d e) (hblock : d.block.Admits e.block) {content : Text}
    (hok : (d.item content).2 = none) :
    (e.item content).2 = none ∧ Backs doubt rest (d.item content).1 (e.item content).1 := by
  have htakes := takes_item d content
  have hadmits := hblock
  generalize d.item content = result at hok htakes ⊢
  cases htakes with
  | rejected fault => cases hok
  | @utterance i mentions hd hmentions =>
    rw [hd] at hadmits
    generalize he : e.block = b at hadmits
    cases hadmits with
    | intent _ j =>
      simp only [item, he, utterance, hmentions, true_and]
      exact h.of_kinds (he ▸ hblock) (fun _ => rfl) (fun _ => rfl)
  | @value i v canonical hd hcolon hcanonical =>
    rw [hd] at hadmits
    generalize he : e.block = b at hadmits
    cases hadmits with
    | list _ j hvalue =>
      simp only [item, he, listItem, hcolon, if_neg hcanonical, true_and]
      exact h.of_kinds (.list i j rfl) (Model.kindOf?_modifyEntity (Entity.keeps_addValue _) _ _)
        (Model.kindOf?_modifyEntity (Entity.keeps_addValue _) _ _)
  | @synonym i v hd hcolon hcontent =>
    rw [hd] at hadmits
    generalize he : e.block = b at hadmits
    cases hadmits with
    | @list _ j _ w hvalue =>
      obtain ⟨w, rfl⟩ := Option.isSome_iff_exists.mp hvalue.symm
      simp only [item, he, listItem, hcolon, if_neg hcontent, true_and]
      exact h.of_kinds (he ▸ hblock) (Model.kindOf?_modifyEntity (Entity.keeps_addSynonym _ _) _ _)
        (Model.kindOf?_modifyEntity (Entity.keeps_addSynonym _ _) _ _)
  | @child i c hd hchild =>
    rw [hd] at hadmits
    generalize he : e.block = b at hadmits
    cases hadmits with
    | ml _ j =>
      simp only [item, he, Draft.child, hchild, true_and]
      -- the child gets its kind in both
      exact h.of_or (fun _ => he ▸ hblock) (Model.kindOf?_addChild _ i c)
        (Model.kindOf?_addChild _ j c)
  | @phrases i hd hitems =>
    rw [hd] at hadmits
    generalize he : e.block = b at hadmits
    cases hadmits with
    | phraseList _ j =>
      simp only [item, he, phrase, if_neg hitems, true_and]
      exact h.of_kinds (he ▸ hblock) (Model.kindOf?_modifyEntity (Entity.keeps_addPhrases _) _ _)
        (Model.kindOf?_modifyEntity (Entity.keeps_addPhrases _) _ _)

/-! ## Definitions -/

theorem admits_put (h : d.block.Admits e.block) (i j : Nat) (kind : EntityKind) (b : Body) :
    (d.put i kind b).block.Admits (e.put j kind b).block := by
  cases b with
  | nothing => exact h
  | block => exact Block.admits_ofKind kind i j
  | pattern text => exact h
  | parts names => exact h
  | phrases words => exact h

/-- Whether a body is rejected depends on kind and name only. -/
theorem admits_fill (h : d.block.Admits e.block) (i j : Nat) {kind : EntityKind} {name : Text}
    {body : Option Text} (hok : (d.fill i kind name body).2 = none) :
    (e.fill j kind name body).2 = none ∧
      (d.fill i kind name body).1.block.Admits (e.fill j kind name body).1.block := by
  unfold fill at hok ⊢
  cases hread : Body.read kind name body with
  | ok b => exact ⟨rfl, admits_put h i j kind b⟩
  | error fault =>
    rw [hread] at hok
    cases hok

/-- Without a body, what a definition adds to a name is never rejected. -/
theorem define_separated_without_body (d : Draft) (name : Text) (modifiers : Modifiers) :
    (d.define (.separated name modifiers none)).2 = none ∧
      (d.define (.separated name modifiers none)).1.block = d.block := by
  rcases d.model.place_cases name with ⟨i, e, hi, he, -⟩ | ⟨hi, -⟩
  · rw [define_separated_of_some hi he]
    exact ⟨rfl, rfl⟩
  · rw [define_separated_of_none hi]
    exact ⟨rfl, rfl⟩

/-- A definition that the first draft takes, the second takes too, if it reads the body by the
same kind. -/
theorem admits_define (h : d.block.Admits e.block) {declared : Definition}
    (hbody : ∀ name, declared.bodyFor? = some name → d.model.kindOf? name = e.model.kindOf? name)
    (hok : (d.define declared).2 = none) :
    (e.define declared).2 = none ∧
      (d.define declared).1.block.Admits (e.define declared).1.block := by
  cases declared with
  | intent name features => exact ⟨rfl, h⟩
  | typed kind name modifiers body =>
    rw [define] at hok ⊢
    refine admits_fill ?_ _ _ hok
    exact h
  | separated name modifiers body =>
    cases body with
    | none =>
      obtain ⟨-, hd⟩ := define_separated_without_body d name modifiers
      obtain ⟨hfault, he⟩ := define_separated_without_body e name modifiers
      exact ⟨hfault, by rw [hd, he]; exact h⟩
    | some body =>
      have hkind := hbody name rfl
      rcases d.model.kindOf?_cases name with ⟨i, x, hi, hx, hkindx⟩ | ⟨hi, hnone⟩
      · rcases e.model.kindOf?_cases name with ⟨j, y, hj, hy, hkindy⟩ | ⟨hj, hnone⟩
        · have hsame : x.kind = y.kind := by
            rw [hkindx, hkindy] at hkind
            exact Option.some.inj hkind
          rw [define_separated_of_some hi hx] at hok ⊢
          rw [define_separated_of_some hj hy, ← hsame]
          refine admits_fill ?_ _ _ hok
          exact h
        · rw [hkindx, hnone] at hkind
          cases hkind
      · rcases e.model.kindOf?_cases name with ⟨j, y, -, -, hkindy⟩ | ⟨hj, -⟩
        · rw [hnone, hkindy] at hkind
          cases hkind
        · rw [define_separated_of_none hi, define_separated_of_none hj]
          exact ⟨rfl, h⟩

/-! ## Lines -/

/-- The second draft can do without what is in doubt when it reads a line: it takes the line, and
opens a block of the same kind if a bullet is next. -/
def Spares (d e : Draft) (l : Text) (below : List Text) : Prop :=
  (e.read l).2 = none ∧
    (bulletNext below = true → (d.read l).1.block.Admits (e.read l).1.block)

/-- A line that the first draft takes, the second takes too, if it can do without the kinds in
doubt where it reads a body. -/
theorem backs_read {l : Text} (h : Backs doubt (l :: rest) d e)
    (hspares : ∀ name, (LineForm.ofLine l).bodyFor? = some name → doubt name → Spares d e l rest)
    (hok : (d.read l).2 = none) :
    (e.read l).2 = none ∧ Backs doubt rest (d.read l).1 (e.read l).1 := by
  unfold Spares at hspares
  unfold read at hok hspares ⊢
  cases hform : LineForm.ofLine l with
  | inert =>
    refine ⟨rfl, fun hnext => h.block ?_, h.kinds⟩
    rw [bulletNext, hform]
    exact hnext
  | header name =>
    exact ⟨rfl, h.of_kinds (.intent _ _) (Model.kindOf?_ensureIntent d.model name)
      (Model.kindOf?_ensureIntent e.model name)⟩
  | definition result =>
    rw [hform] at hok hspares
    cases result with
    | error fault => cases hok
    | ok declared =>
      suffices hblock : (define { e with block := .outside } declared).2 = none ∧
          (bulletNext rest = true →
            (define { d with block := .outside } declared).1.block.Admits
              (define { e with block := .outside } declared).1.block) from
        ⟨hblock.1, h.of_or hblock.2 (kindOf?_define { d with block := .outside } declared)
          (kindOf?_define { e with block := .outside } declared)⟩
      by_cases hdoubt : ∃ name, declared.bodyFor? = some name ∧ doubt name
      · obtain ⟨name, hname, hdoubt⟩ := hdoubt
        exact hspares name hname hdoubt
      · have hbody : ∀ name, declared.bodyFor? = some name →
            d.model.kindOf? name = e.model.kindOf? name := by
          intro name hname
          exact h.kinds name fun hd => hdoubt ⟨name, hname, hd⟩
        obtain ⟨hfault, hadmits⟩ := admits_define (d := { d with block := .outside })
          (e := { e with block := .outside }) (.outside _) hbody hok
        exact ⟨hfault, fun _ => hadmits⟩
  | item content =>
    rw [hform] at hok
    refine backs_item h (h.block ?_) hok
    rw [bulletNext, hform]
  | rejected fault =>
    rw [hform] at hok
    cases hok

/-- Lines that the first draft takes, the second takes too, and it stands in for the first below
them. -/
theorem backs_after {k : Nat} {ls : List Text} (h : Backs doubt ls d e)
    (hspares : ∀ above l below name, ls = above ++ l :: below →
      (LineForm.ofLine l).bodyFor? = some name → doubt name →
      Spares (d.after above) (e.after above) l below)
    (hok : d.rejections k ls = []) :
    e.rejections k ls = [] ∧ Backs doubt [] (d.after ls) (e.after ls) := by
  induction ls generalizing d e k with
  | nil => exact ⟨rfl, h⟩
  | cons l ls ih =>
    rw [rejections_cons, List.append_eq_nil_iff, rejection_eq_nil] at hok ⊢
    obtain ⟨hfault, hnext⟩ := backs_read h (fun name => hspares [] l ls name rfl) hok.1
    obtain ⟨hrest, hbacks⟩ := ih hnext (fun above m below name hls =>
      hspares (l :: above) m below name (by rw [hls, List.cons_append])) hok.2
    exact ⟨⟨hfault, hrest⟩, hbacks⟩

end Backs

/-! ## The rejected line -/

theorem block_fill_of_fault {d : Draft} {i : Nat} {kind : EntityKind} {name : Text}
    {body : Option Text} {fault : Fault} (h : (d.fill i kind name body).2 = some fault) :
    (d.fill i kind name body).1.block = d.block := by
  unfold fill at h ⊢
  cases hread : Body.read kind name body with
  | ok b =>
    rw [hread] at h
    cases h
  | error fault => rfl

/-- A definition is rejected for its body, which opens no block then. -/
theorem block_define_of_fault {d : Draft} {declared : Definition} {fault : Fault}
    (h : (d.define declared).2 = some fault) : (d.define declared).1.block = d.block := by
  cases declared with
  | intent name features => cases h
  | typed kind name modifiers body =>
    rw [define] at h ⊢
    exact block_fill_of_fault h
  | separated name modifiers body =>
    rcases d.model.place_cases name with ⟨i, e, hi, he, -⟩ | ⟨hi, -⟩
    · rw [define_separated_of_some hi he] at h ⊢
      exact block_fill_of_fault h
    · rw [define_separated_of_none hi] at h
      cases h

/-- A line defines an entity with a name that has none. -/
def Introduces (d : Draft) (l name : Text) : Prop :=
  d.model.kindOf? name = none ∧
    ∃ kind modifiers body, LineForm.ofLine l = .definition (.ok (.typed kind name modifiers body))

/-- The draft before a rejected line stands in for the draft after it, except that a name may
have got a kind. -/
theorem backs_of_fault {d : Draft} {l : Text} {fault : Fault} (h : (d.read l).2 = some fault)
    (below : List Text) : Backs (d.Introduces l) below (d.read l).1 d := by
  unfold read at h ⊢
  cases hform : LineForm.ofLine l with
  | inert =>
    rw [hform] at h
    cases h
  | header name =>
    rw [hform] at h
    cases h
  | definition result =>
    rw [hform] at h
    cases result with
    | error fault => exact ⟨fun _ => .outside _, fun _ _ => rfl⟩
    | ok declared =>
      refine ⟨?_, ?_⟩
      · have hblock : (define { d with block := .outside } declared).1.block = .outside :=
          block_define_of_fault h
        exact fun _ => hblock ▸ .outside _
      · intro x hx
        refine (kindOf?_define { d with block := .outside } declared x).trans ?_
        cases hkind : d.model.kindOf? x with
        | some kind => exact Option.some_or
        | none =>
          cases declared with
          | intent name features => exact Option.or_none
          | separated name modifiers body => exact Option.or_none
          | typed kind name modifiers body =>
            have hne : x ≠ name := by
              rintro rfl
              exact hx ⟨hkind, kind, modifiers, body, hform⟩
            rw [Definition.kindFor?, if_neg hne, Option.or_none]
  | item content =>
    rw [hform] at h
    have hsame : (d.item content).1 = d := item_of_fault h
    exact ⟨fun _ => hsame.symm ▸ .refl _, fun x _ => congrArg (·.model.kindOf? x) hsame⟩
  | rejected fault => exact ⟨fun _ => .refl _, fun _ _ => rfl⟩

/-- The only rejected line has a fault where it stands, and no line above or below has one. -/
theorem faults_of_only_rejected {d : Draft} {k : Nat} {above : List Text} {l : Text}
    {below : List Text}
    (honly : (d.rejections k (above ++ l :: below)).map Prod.fst = [k + above.length]) :
    d.rejections k above = [] ∧ (∃ fault, ((d.after above).read l).2 = some fault) ∧
      ((d.after above).read l).1.rejections (k + above.length + 1) below = [] := by
  have hall : ∀ r ∈ d.rejections k (above ++ l :: below), r.1 = k + above.length := by
    intro r hr
    have hfst := List.mem_map_of_mem (f := Prod.fst) hr
    rw [honly] at hfst
    exact List.mem_singleton.mp hfst
  have hfault : ∃ message, (k + above.length, message) ∈ d.rejections k (above ++ l :: below) := by
    have hmem : k + above.length ∈ (d.rejections k (above ++ l :: below)).map Prod.fst :=
      honly ▸ List.mem_singleton_self _
    obtain ⟨r, hr, hline⟩ := List.mem_map.mp hmem
    exact ⟨r.2, hline ▸ hr⟩
  obtain ⟨message, hmessage⟩ := hfault
  refine ⟨?_, fault_of_mem_rejections hmessage, ?_⟩
  · refine List.eq_nil_iff_forall_not_mem.mpr fun r hr => ?_
    have hline := hall r (by rw [rejections_append]; exact List.mem_append_left _ hr)
    have hbound := (line_of_mem_rejections hr).2
    omega
  · refine List.eq_nil_iff_forall_not_mem.mpr fun r hr => ?_
    have hline := hall r (by
      rw [rejections_append, rejections_cons]
      exact List.mem_append_right _ (List.mem_append_right _ hr))
    have hbound := (line_of_mem_rejections hr).1
    omega

end Draft

/-! ## Texts -/

open Draft in
/-- A line below line `n` needs the entity that line `n`, though rejected, has introduced: it
gives the entity's name a body, and without line `n` it is itself rejected, or it does not open
a block of the same kind as with line `n` although the next line, apart from comments and blank
lines, is a bullet.

The kind of the block counts even where the bullets are taken in blocks of both kinds: children
introduce entities, phrases do not, and the entity of a child can be needed further down. -/
def NeededBelow (text culture : Text) (n : Nat) : Prop :=
  ∃ l name, text.line? n = some l ∧
    ((start culture).after (text.lines.take n)).Introduces l name ∧
    ∃ j m, n < j ∧ text.line? j = some m ∧ (LineForm.ofLine m).bodyFor? = some name ∧
      ¬ Spares ((start culture).after (text.lines.take j))
        ((start culture).after ((text.lines.take j).eraseIdx n)) m (text.lines.drop (j + 1))

open Draft in
/-- The lines but the only rejected one can be read, unless one of them needs it. -/
theorem rejections_eraseIdx {text culture : Text} {n : Nat}
    (honly : (LuServer.rejections text culture).map Prod.fst = [n + 1])
    (hneeded : ¬ NeededBelow text culture n) :
    (start culture).rejections 1 (text.lines.eraseIdx n) = [] := by
  have hl : ∃ l, text.line? n = some l := by
    have hmem : n + 1 ∈ (LuServer.rejections text culture).map Prod.fst :=
      honly ▸ List.mem_singleton_self _
    obtain ⟨r, hr, hline⟩ := List.mem_map.mp hmem
    rw [rejections_eq] at hr
    have hbound := (line_of_mem_rejections hr).2
    exact ⟨_, List.getElem?_eq_getElem (l := text.lines) (by omega)⟩
  obtain ⟨l, hl⟩ := hl
  obtain ⟨above, below, hlines, rfl⟩ := Text.exists_lines_around hl
  rw [rejections_eq, hlines, Nat.add_comm] at honly
  obtain ⟨habove, ⟨fault, hfault⟩, hbelow⟩ := faults_of_only_rejected honly
  rw [hlines, List.eraseIdx_append_of_length_le (Nat.le_refl _), Nat.sub_self,
    List.eraseIdx_cons_zero, rejections_append, habove, List.nil_append]
  -- counted from the line that is gone, the lines below count one more
  rw [← List.map_eq_nil_iff (f := fun r => (r.1 + 1, r.2)), ← rejections_add]
  refine (backs_after (backs_of_fault hfault below) ?_ hbelow).1
  intro mid m rest name hmid hname hintroduces
  have hupper : text.lines = (above ++ l :: mid) ++ m :: rest := by
    rw [hlines, hmid, List.append_assoc, List.cons_append]
  by_contra hspares
  refine hneeded ⟨l, name, hl, ?_, (above ++ l :: mid).length, m, ?_, ?_, hname, ?_⟩
  · rwa [hlines, List.take_left]
  · rw [List.length_append, List.length_cons]
    omega
  · rw [Text.line?, hupper, List.getElem?_append_right (Nat.le_refl _), Nat.sub_self,
      List.getElem?_cons_zero]
  · have hrest : text.lines.drop ((above ++ l :: mid).length + 1) = rest := by
      rw [hupper, List.append_cons (above ++ l :: mid) m rest]
      exact List.drop_left' (List.length_append)
    rw [hrest, hupper, List.take_left, List.eraseIdx_append_of_length_le (Nat.le_refl _),
      Nat.sub_self, List.eraseIdx_cons_zero, after_append, after_append, after_cons]
    exact hspares

open Draft in
/-- **Reading around the line being typed.**  If line `n` is the only rejected line of a text,
the model found around it is that of the other lines.  The exception is a definition that is
rejected for its body after it has introduced an entity, if a later line gives the entity its
body and cannot be read without it, or opens a block of another kind without it and a bullet is
next.  That is an exception even if the bullet is taken in a block of either kind, where the other
lines may be readable or not: a child introduces an entity, and a line further down can need it. -/
theorem fallback_of_only_rejected (text culture : Text) (n : Nat)
    (honly : (rejections text culture).map Prod.fst = [n + 1])
    (hneeded : ¬ NeededBelow text culture n) :
    (extractAround? text n culture).value
      = some ((start culture).after (text.lines.eraseIdx n)).finish := by
  have hne : rejections text culture ≠ [] := by
    intro hnil
    simp [hnil] at honly
  have hparse : parse (text.withoutLine n) culture
      = .ok ((start culture).after (text.lines.eraseIdx n)).finish := by
    rw [parse_eq_ok_iff, rejections_eq, rejections_withoutLine, after_withoutLine]
    exact ⟨rejections_eraseIdx honly hneeded, rfl⟩
  rw [value_extractAround?, toOption_parse_of_rejections hne, hparse]
  rfl

/-- The pattern is given to a name that no line is left to define, which is no fault. -/
theorem fallback_of_only_rejected_regex :
    let text : Text := "@ regex zip = [\n@ zip = /x/".toList
    (rejections text []).map Prod.fst = [1] ∧ ¬ NeededBelow text [] 0 ∧
      (extractAround? text 0 []).value = some { references := ["zip".toList] } := by
  intro text
  have honly : (rejections text []).map Prod.fst = [1] := by decide +kernel
  have hneeded : ¬ NeededBelow text [] 0 := by
    rintro ⟨l, name, -, -, j, m, hj, hm, -, hspares⟩
    have hlt : j < 2 := (List.getElem?_eq_some_iff.mp hm).1
    obtain rfl : j = 1 := by omega
    obtain rfl : "@ zip = /x/".toList = m := Option.some.inj hm
    exact hspares ⟨by decide +kernel, fun hnext => absurd hnext (by decide)⟩
  exact ⟨honly, hneeded, fallback_of_only_rejected text [] 0 honly hneeded⟩

/-- Without the first line the bullet of `color` is taken as well, but as a phrase and not as a child.
So `zip` has no entity, and the last line no block. -/
example :
    let text : Text :=
      "@ ml color = x\n@ phraselist color\n@ color =\n- @ ml zip\n@ zip =\n- @ ml q".toList
    (rejections text []).map Prod.fst = [1] ∧
      (rejections (text.withoutLine 0) []).map Prod.fst = [5] := by
  decide +kernel

/-- The rejected definition is needed if no other line says which bullets belong to the name. -/
theorem fallback_lost_with_kind :
    let text : Text := "@ ml address = x\n@ address =\n- @ zip".toList
    (rejections text []).map Prod.fst = [1] ∧ (extractAround? text 0 []).value = none := by
  decide +kernel

end LuServer
