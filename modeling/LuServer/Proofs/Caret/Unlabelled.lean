/-
# Labels and their words

What an utterance without its labels is: each label, from its opening brace to its closing
one, is replaced by the words in it, and every other character stays.  Such a text has no
braces left and still says something.

* `Label.Unlabelled`: a text and the same without its labels.
* `Label.Unlabels`: an utterance with labels and the same without them.
* `Label.unlabels_of_strip?`: what is stripped of a line are its labels.
* `Label.Unlabelled.not_mem`, `Label.Unlabelled.says`: no brace is left, but some words are.
-/
import LuServer.Caret.Label
import LuServer.Proofs.Text.Word

namespace LuServer

namespace Label

/-! ## Texts without their labels -/

/-- The second text is the first with each label replaced by its words. -/
inductive Unlabelled : Text → Text → Prop
  | nil : Unlabelled [] []
  /-- What stands outside of labels stays. -/
  | char {c : Char} {t u : Text} : c ≠ '{' → c ≠ '}' → Unlabelled t u →
    Unlabelled (c :: t) (c :: u)
  /-- A label: a key, an equals sign, blanks, and the words. -/
  | label {key gap words t u : Text} : key ≠ [] → (∀ c ∈ key, isKeyChar c = true) →
    (∀ b ∈ gap, Text.isBlank b = true) → words ≠ [] → (∀ c ∈ words, Text.isDotted c = true) →
    Unlabelled t u →
    Unlabelled ('{' :: key ++ '=' :: gap ++ words ++ '}' :: t) (words ++ u)

/-- The first text is an utterance with at least one label, the second the same without its
labels. -/
def Unlabels (line plain : Text) : Prop :=
  ∃ lead labelled free, line = lead ++ '-' :: labelled ∧ plain = lead ++ '-' :: free ∧
    (∀ b ∈ lead, Text.isBlank b = true) ∧ '{' ∈ labelled ∧ Unlabelled labelled free

theorem words?_eq_some {span words : Text} (h : words? span = some words) :
    ∃ key gap, span = key ++ '=' :: gap ++ words ∧ key ≠ [] ∧ (∀ c ∈ key, isKeyChar c = true) ∧
      (∀ b ∈ gap, Text.isBlank b = true) ∧ words ≠ [] ∧
      ∀ c ∈ words, Text.isDotted c = true := by
  unfold words? at h
  split at h
  · cases h
  · next key rest hcut =>
    dsimp only at h
    split at h
    · next hproper =>
      obtain ⟨hkey, hkeys, hne, hall⟩ := hproper
      obtain rfl := Option.some.inj h
      refine ⟨key, rest.takeWhile Text.isBlank, ?_, hkey, List.all_eq_true.mp hkeys, ?_, hne,
        List.all_eq_true.mp hall⟩
      · rw [(Text.cutAt_eq_some hcut).1, Text.trimStart, List.append_assoc, List.cons_append,
          List.takeWhile_append_dropWhile]
      · intro b hb
        exact List.mem_takeWhile_imp hb
    · cases h

/-- Whatever has been read of a label, what comes out is the text without its labels. -/
theorem unlabelled_of_replace? (t : Text) :
    (∀ u, replace? none t = some u → Unlabelled t u) ∧
    (∀ span u, replace? (some span) t = some u → Unlabelled ('{' :: span ++ t) u) := by
  induction t with
  | nil =>
    constructor
    · intro u h
      obtain rfl := Option.some.inj h
      exact .nil
    · intro span u h
      cases h
  | cons c t ih =>
    -- outside of labels first, then inside of one
    constructor
    · intro u h
      rw [replace?] at h
      split at h
      · next hc =>
        subst hc
        exact ih.2 [] u h
      · next hopen =>
        split at h
        · cases h
        · next hclose =>
          obtain ⟨v, hv, rfl⟩ := Option.map_eq_some_iff.mp h
          exact .char hopen hclose (ih.1 v hv)
    · intro span u h
      rw [replace?] at h
      split at h
      · cases h
      · split at h
        · next hc =>
          subst hc
          obtain ⟨words, hwords, h⟩ := Option.bind_eq_some_iff.mp h
          obtain ⟨others, hothers, h⟩ := Option.bind_eq_some_iff.mp h
          obtain rfl := Option.some.inj h
          obtain ⟨key, gap, rfl, hkey, hkeys, hgap, hne, hall⟩ := words?_eq_some hwords
          have hlabel := Unlabelled.label hkey hkeys hgap hne hall (ih.1 others hothers)
          simpa using hlabel
        · have hspan := ih.2 (span ++ [c]) u h
          simpa using hspan

theorem unlabels_of_strip? {line plain : Text} (h : strip? line = some plain) :
    Unlabels line plain := by
  have hline : line.takeWhile Text.isBlank ++ line.trimStart = line :=
    List.takeWhile_append_dropWhile
  unfold strip? at h
  split at h
  · cases h
  · next c rest htrim =>
    split at h
    · next hsign =>
      obtain ⟨rfl, hbrace⟩ := hsign
      obtain ⟨free, hfree, rfl⟩ := Option.map_eq_some_iff.mp h
      refine ⟨line.takeWhile Text.isBlank, rest, free, ?_, rfl, ?_, ?_,
        (unlabelled_of_replace? rest).1 free hfree⟩
      · rw [← htrim, hline]
      · intro b hb
        exact List.mem_takeWhile_imp hb
      · exact List.contains_iff_mem.mp hbrace
    · cases h

/-! ## What is left -/

/-- No brace is left. -/
theorem Unlabelled.not_mem {t u : Text} (h : Unlabelled t u) : '{' ∉ u ∧ '}' ∉ u := by
  induction h with
  | nil => simp
  | char hopen hclose _ ih => simp [ih, Ne.symm hopen, Ne.symm hclose]
  | @label _ _ words _ _ _ _ _ _ hall _ ih =>
    have hopen : '{' ∉ words := fun hmem => absurd (hall _ hmem) (by decide)
    have hclose : '}' ∉ words := fun hmem => absurd (hall _ hmem) (by decide)
    simp [ih, hopen, hclose]

/-- Nothing is added. -/
theorem Unlabelled.subset {t u : Text} (h : Unlabelled t u) : u ⊆ t := by
  induction h with
  | nil => exact List.Subset.refl _
  | char _ _ _ ih => exact List.cons_subset_cons _ ih
  | label _ _ _ _ _ _ ih =>
    intro c hc
    rcases List.mem_append.mp hc with hc | hc
    · simp [hc]
    · simp [ih hc]

/-- A text with a label says something also without it. -/
theorem Unlabelled.says {t u : Text} (h : Unlabelled t u) (hlabel : '{' ∈ t) :
    ∃ c ∈ u, Text.isBlank c = false := by
  induction h with
  | nil => simp at hlabel
  | char hopen _ _ ih =>
    rcases List.mem_cons.mp hlabel with hhead | hrest
    · exact absurd hhead.symm hopen
    · obtain ⟨c, hc, hblank⟩ := ih hrest
      exact ⟨c, List.mem_cons_of_mem _ hc, hblank⟩
  | label _ _ _ hne hall _ _ =>
    obtain ⟨c, words, rfl⟩ := List.exists_cons_of_ne_nil hne
    exact ⟨c, by simp, Text.isBlank_of_isDotted (hall c List.mem_cons_self)⟩

theorem Unlabels.subset {line plain : Text} (h : Unlabels line plain) : plain ⊆ line := by
  obtain ⟨lead, labelled, free, rfl, rfl, -, -, hfree⟩ := h
  intro c hc
  rcases List.mem_append.mp hc with hc | hc
  · exact List.mem_append_left _ hc
  · exact List.mem_append_right _ (List.cons_subset_cons '-' hfree.subset hc)

theorem Unlabels.not_mem {line plain : Text} (h : Unlabels line plain) :
    '{' ∉ plain ∧ '}' ∉ plain := by
  obtain ⟨lead, labelled, free, -, rfl, hlead, -, hfree⟩ := h
  have hopen : '{' ∉ lead := fun hmem => absurd (hlead _ hmem) (by decide)
  have hclose : '}' ∉ lead := fun hmem => absurd (hlead _ hmem) (by decide)
  simp [hopen, hclose, hfree.not_mem]

/-- What has no brace has no label. -/
theorem strip?_of_not_mem {line : Text} (h : '{' ∉ line) : strip? line = none := by
  cases hstrip : strip? line with
  | none => rfl
  | some plain =>
    obtain ⟨lead, labelled, free, rfl, -, -, hbrace, -⟩ := unlabels_of_strip? hstrip
    exact absurd (by simp [hbrace]) h

end Label

end LuServer
