/-
# Spelling of keywords

The keywords of modifiers are spelled in letters of either case, and an s can be the long s.  A
keyword is found where a text starts with such a spelling and the word ends with it.

* `Modifiers.letterForms`, `Modifiers.mem_letterForms_iff`: the forms of a letter.
* `Modifiers.Spelling`, `Modifiers.Keyword.Matches`: the words that are keywords.
* `Modifiers.keyword?_eq_some_iff`: where a keyword is found.
* `Modifiers.isRoleWord_iff`: which keywords introduce roles.
-/
import LuServer.Grammar.Modifiers
import Mathlib.Data.List.Forall2

namespace LuServer.Modifiers

/-! ## Letters -/

/-- The forms of a lower-case letter: the letter, its capital and, for s, the long s. -/
def letterForms (a : Char) : List Char :=
  if a = 's' then ['s', 'S', 'ſ'] else [a, a.toUpper]

theorem toUpper_toLower_capitals :
    ∀ n ∈ List.range' 65 26, (Char.ofNat n).toLower.toUpper = Char.ofNat n := by
  decide +kernel

theorem toLower_small :
    ∀ n ∈ List.range' 97 26, (Char.ofNat n).toLower = Char.ofNat n ∧
      (Char.ofNat n).toUpper.toLower = Char.ofNat n := by
  decide +kernel

/-- Two letters have one lower case if one is the other or its capital. -/
theorem toLower_eq_iff {a : Char} (ha : a.isLower = true) (c : Char) :
    c.toLower = a ↔ c = a ∨ c = a.toUpper := by
  obtain ⟨hfirst, hlast⟩ := Bool.and_eq_true_iff.mp ha
  have hsmall := toLower_small a.toNat (by
    rw [List.mem_range'_1]
    exact ⟨UInt32.le_iff_toNat_le.mp (of_decide_eq_true hfirst),
      Nat.lt_succ_of_le (UInt32.le_iff_toNat_le.mp (of_decide_eq_true hlast))⟩)
  rw [Char.ofNat_toNat] at hsmall
  constructor
  · rintro rfl
    by_cases hupper : c.val ≥ 'A'.val ∧ c.val ≤ 'Z'.val
    · have hcapital := toUpper_toLower_capitals c.toNat (by
        rw [List.mem_range'_1]
        exact ⟨UInt32.le_iff_toNat_le.mp hupper.1,
          Nat.lt_succ_of_le (UInt32.le_iff_toNat_le.mp hupper.2)⟩)
      rw [Char.ofNat_toNat] at hcapital
      exact .inr hcapital.symm
    · have hsame : c.toLower = c := dif_neg hupper
      exact .inl hsame.symm
  · rintro (rfl | rfl)
    · exact hsmall.1
    · exact hsmall.2

theorem mem_letterForms_iff {a : Char} (ha : a.isLower = true) (c : Char) :
    c ∈ letterForms a ↔ sameLetter a c = true := by
  rw [sameLetter, Bool.or_eq_true, Bool.and_eq_true, beq_iff_eq, beq_iff_eq, beq_iff_eq,
    toLower_eq_iff ha, letterForms]
  split
  · next hs =>
    subst hs
    simp [or_assoc]
  · next hs => simp [hs]

/-- Only s has a form that is not told by its lower case. -/
theorem toLower_of_mem_letterForms {a c : Char} (ha : a.isLower = true) (hs : a ≠ 's')
    (hc : c ∈ letterForms a) : c.toLower = a := by
  have hletter := (mem_letterForms_iff ha c).mp hc
  simpa [sameLetter, hs] using hletter

theorem toLower_eq_s_iff {c : Char} (hc : c ∈ letterForms 's') : c.toLower = 's' ↔ c ≠ 'ſ' := by
  have hforms : c = 's' ∨ c = 'S' ∨ c = 'ſ' := by simpa [letterForms] using hc
  rcases hforms with rfl | rfl | rfl <;> decide

theorem isWord_of_isAlpha {c : Char} (h : c.isAlpha = true) : Text.isWord c = true := by
  have hascii : c.toNat < 0x80 := by
    rcases Bool.or_eq_true_iff.mp h with hupper | hlower
    · have hle : c.val ≤ 'Z'.val := (of_decide_eq_true hupper).2
      exact Nat.lt_of_le_of_lt (UInt32.le_iff_toNat_le.mp hle) (by decide)
    · have hle : c.val ≤ 'z'.val := of_decide_eq_true (Bool.and_eq_true_iff.mp hlower).2
      exact Nat.lt_of_le_of_lt (UInt32.le_iff_toNat_le.mp hle) (by decide)
  simp [Text.isWord, hascii, Char.isAlphanum, h]

/-- A letter of a keyword is a character of words, however it is written. -/
theorem isWord_of_sameLetter {a c : Char} (ha : a.isLower = true)
    (h : sameLetter a c = true) : Text.isWord c = true := by
  rw [sameLetter, Bool.or_eq_true, Bool.and_eq_true] at h
  rcases h with h | ⟨-, h⟩
  · apply isWord_of_isAlpha
    rw [beq_iff_eq] at h
    by_cases hupper : c.val ≥ 'A'.val ∧ c.val ≤ 'Z'.val
    · exact Bool.or_eq_true_iff.mpr (.inl (decide_eq_true hupper))
    · obtain rfl : c = a := (dif_neg hupper).symm.trans h
      exact Bool.or_eq_true_iff.mpr (.inr ha)
  · rw [beq_iff_eq] at h
    subst h
    decide

theorem sameLetter_of_not_word {a c : Char} (ha : a.isLower = true)
    (hc : Text.isWord c = false) : sameLetter a c = false := by
  rw [Bool.eq_false_iff]
  intro hletter
  rw [isWord_of_sameLetter ha hletter] at hc
  cases hc

/-! ## Keywords -/

/-- The two keywords. -/
inductive Keyword where
  | hasRole
  | usesFeature

/-- A keyword without the s that it can end with, in lower case. -/
def Keyword.stem : Keyword → Text
  | hasRole => "hasrole".toList
  | usesFeature => "usesfeature".toList

/-- A word is spelled as `p` up to the case of its letters. -/
def Spelling (p w : Text) : Prop :=
  List.Forall₂ (fun a c => c ∈ letterForms a) p w

/-- A word is the keyword, with or without an s at its end. -/
def Keyword.Matches (k : Keyword) (w : Text) : Prop :=
  Spelling k.stem w ∨ Spelling (k.stem ++ ['s']) w

instance (p w : Text) : Decidable (Spelling p w) :=
  inferInstanceAs (Decidable (List.Forall₂ (fun a c => c ∈ letterForms a) p w))

instance (k : Keyword) (w : Text) : Decidable (k.Matches w) :=
  inferInstanceAs (Decidable (Spelling k.stem w ∨ Spelling (k.stem ++ ['s']) w))

theorem Keyword.isLower_stem (k : Keyword) : ∀ a ∈ k.stem, a.isLower = true := by
  cases k <;> exact List.all_eq_true.mp (by decide)

theorem spelling_cons_iff {a : Char} {p w : Text} :
    Spelling (a :: p) w ↔ ∃ c v, w = c :: v ∧ c ∈ letterForms a ∧ Spelling p v := by
  simp only [Spelling, List.forall₂_cons_left_iff]
  grind

theorem spelling_concat_iff {a : Char} {p w : Text} :
    Spelling (p ++ [a]) w ↔ ∃ v c, w = v ++ [c] ∧ Spelling p v ∧ c ∈ letterForms a := by
  rw [Spelling, ← List.forall₂_reverse_iff, List.reverse_append, List.reverse_singleton,
    List.singleton_append, List.forall₂_cons_left_iff]
  constructor
  · rintro ⟨c, v, hc, hv, hw⟩
    refine ⟨v.reverse, c, by simpa using congrArg List.reverse hw, ?_, hc⟩
    rwa [Spelling, ← List.forall₂_reverse_iff, List.reverse_reverse]
  · rintro ⟨v, c, rfl, hv, hc⟩
    exact ⟨c, v.reverse, hc, List.forall₂_reverse_iff.mpr hv, by simp⟩

theorem isWord_of_spelling {p w : Text} (hp : ∀ a ∈ p, a.isLower = true) (h : Spelling p w) :
    ∀ c ∈ w, Text.isWord c = true := by
  induction p generalizing w with
  | nil =>
    obtain rfl := List.forall₂_nil_left_iff.mp h
    simp
  | cons a p ih =>
    obtain ⟨ha, hp⟩ := List.forall_mem_cons.mp hp
    obtain ⟨c, v, rfl, hc, hv⟩ := spelling_cons_iff.mp h
    exact List.forall_mem_cons.mpr
      ⟨isWord_of_sameLetter ha ((mem_letterForms_iff ha c).mp hc), ih hp hv⟩

/-- A keyword is a word. -/
theorem Keyword.Matches.isWord {k : Keyword} {w : Text} (h : k.Matches w) :
    ∀ c ∈ w, Text.isWord c = true := by
  rcases h with h | h
  · exact isWord_of_spelling k.isLower_stem h
  · refine isWord_of_spelling ?_ h
    exact List.forall_mem_append.mpr ⟨k.isLower_stem, by simp⟩

theorem Keyword.Matches.ne_nil {k : Keyword} {w : Text} (h : k.Matches w) : w ≠ [] := by
  rintro rfl
  cases k <;> revert h <;> decide

/-! ## Finding a keyword -/

/-- The letters of `p` are found at the start of a text that starts with a spelling of `p`. -/
theorem letters?_eq_some_iff {p t w r : Text} (hp : ∀ a ∈ p, a.isLower = true) :
    letters? p t = some (w, r) ↔ t = w ++ r ∧ Spelling p w := by
  induction p generalizing t w with
  | nil =>
    simp only [letters?, Spelling, List.forall₂_nil_left_iff]
    grind
  | cons a p ih =>
    obtain ⟨ha, hp⟩ := List.forall_mem_cons.mp hp
    rw [spelling_cons_iff]
    cases t with
    | nil =>
      simp only [letters?]
      grind
    | cons c t =>
      by_cases hc : c ∈ letterForms a
      · rw [letters?, if_pos ((mem_letterForms_iff ha c).mp hc)]
        simp only [Option.map_eq_some_iff, Prod.exists, Prod.mk.injEq]
        grind
      · rw [letters?, if_neg (mt (mem_letterForms_iff ha c).mpr hc)]
        grind

theorem plural?_eq_some_iff {stem t w : Text} (hstem : ∀ a ∈ stem, a.isLower = true) :
    plural? stem t = some w ↔
      ∃ r, t = w ++ r ∧ wordEnds r = true ∧ (Spelling stem w ∨ Spelling (stem ++ ['s']) w) := by
  constructor
  · intro h
    unfold plural? at h
    split at h
    · cases h
    · next v hletters =>
      obtain rfl := Option.some.inj h
      obtain ⟨ht, hv⟩ := (letters?_eq_some_iff hstem).mp hletters
      exact ⟨[], ht, rfl, .inl hv⟩
    · next v c rest hletters =>
      obtain ⟨rfl, hv⟩ := (letters?_eq_some_iff hstem).mp hletters
      -- an s right after the stem has to belong to the keyword
      split at h
      · next hs =>
        split at h
        · next hends =>
          obtain rfl := Option.some.inj h
          have hc := (mem_letterForms_iff (by decide) c).mpr hs
          exact ⟨rest, by simp, hends, .inr (spelling_concat_iff.mpr ⟨v, c, rfl, hv, hc⟩)⟩
        · cases h
      · split at h
        · next hends =>
          obtain rfl := Option.some.inj h
          exact ⟨c :: rest, rfl, hends, .inl hv⟩
        · cases h
  · rintro ⟨r, rfl, hends, hw | hw⟩
    · rw [plural?, (letters?_eq_some_iff hstem).mpr ⟨rfl, hw⟩]
      cases r with
      | nil => rfl
      | cons c r =>
        have hc : Text.isWord c = false := by simpa [wordEnds] using hends
        simp [sameLetter_of_not_word (a := 's') (by decide) hc, hends]
    · obtain ⟨v, c, rfl, hv, hc⟩ := spelling_concat_iff.mp hw
      rw [plural?, List.append_assoc, (letters?_eq_some_iff hstem).mpr ⟨rfl, hv⟩]
      simp [(mem_letterForms_iff (a := 's') (by decide) c).mp hc, hends]

/-- A word that starts with another letter than the stem is not found. -/
theorem plural?_of_ne {a c : Char} {p w : Text} (h : sameLetter a c = false) :
    plural? (a :: p) (c :: w) = none := by
  rw [plural?, letters?, h]
  rfl

/-- A keyword starts with its stem. -/
theorem Keyword.Matches.stem_spelled {k : Keyword} {w : Text} (h : k.Matches w) :
    ∃ v u, w = v ++ u ∧ Spelling k.stem v := by
  rcases h with h | h
  · exact ⟨w, [], by simp, h⟩
  · obtain ⟨v, c, rfl, hv, -⟩ := spelling_concat_iff.mp h
    exact ⟨v, [c], rfl, hv⟩

theorem Keyword.Matches.first_letter {w : Text} (h : usesFeature.Matches w) :
    ∃ c v, w = c :: v ∧ c.toLower = 'u' := by
  obtain ⟨v, u, rfl, hv⟩ := h.stem_spelled
  obtain ⟨c, v, rfl, hc, -⟩ := spelling_cons_iff.mp hv
  exact ⟨c, v ++ u, rfl, toLower_of_mem_letterForms (by decide) (by decide) hc⟩

/-- What starts with one keyword does not start with the other. -/
theorem plural?_hasRole_of_usesFeature {w : Text} (hw : Keyword.usesFeature.Matches w) (r : Text) :
    plural? Keyword.hasRole.stem (w ++ r) = none := by
  obtain ⟨c, v, rfl, hc⟩ := hw.first_letter
  have hother : sameLetter 'h' c = false := by simp [sameLetter, hc]
  exact plural?_of_ne hother

/-- A keyword is found where a text starts with one, as a word. -/
theorem keyword?_eq_some_iff {t w : Text} :
    keyword? t = some w ↔ ∃ k r, t = w ++ r ∧ wordEnds r = true ∧ Keyword.Matches k w := by
  rw [show keyword? t = (plural? Keyword.hasRole.stem t).or (plural? Keyword.usesFeature.stem t)
    from rfl]
  constructor
  · intro h
    rcases Option.or_eq_some_iff.mp h with h | ⟨-, h⟩
    · exact ⟨.hasRole, (plural?_eq_some_iff (Keyword.isLower_stem _)).mp h⟩
    · exact ⟨.usesFeature, (plural?_eq_some_iff (Keyword.isLower_stem _)).mp h⟩
  · rintro ⟨k, r, ht, hends, hw⟩
    have hfound := (plural?_eq_some_iff k.isLower_stem).mpr ⟨r, ht, hends, hw⟩
    cases k with
    | hasRole => rw [hfound, Option.some_or]
    | usesFeature =>
      rw [hfound, ht, plural?_hasRole_of_usesFeature hw, Option.none_or]

theorem keyword?_of_matches {k : Keyword} {w : Text} (h : k.Matches w) : keyword? w = some w :=
  keyword?_eq_some_iff.mpr ⟨k, [], by simp, rfl, h⟩

/-! ## Keywords for roles -/

theorem not_matches_hasRole {w : Text} (hw : Keyword.usesFeature.Matches w) :
    ¬ Keyword.hasRole.Matches w := by
  intro hrole
  have hnone := plural?_hasRole_of_usesFeature hw []
  have hsome := (plural?_eq_some_iff (Keyword.isLower_stem .hasRole)).mpr
    ⟨[], rfl, rfl, hrole⟩
  rw [hsome] at hnone
  cases hnone

/-- The stem for roles is told by its lower case, unless its s is the long one. -/
theorem isRoleWord_of_stem {v : Text} (hv : Spelling Keyword.hasRole.stem v) (u : Text) :
    isRoleWord (v ++ u) = true ↔ (v ++ u)[2]? ≠ some 'ſ' := by
  change List.Forall₂ _ ['h', 'a', 's', 'r', 'o', 'l', 'e'] v at hv
  simp only [List.forall₂_cons_left_iff, List.forall₂_nil_left_iff] at hv
  obtain ⟨h, _, hh, ⟨a, _, ha, ⟨s, _, hs, ⟨r, _, hr, ⟨o, _, ho, ⟨l, _, hl, ⟨e, _, he, rfl, rfl⟩,
    rfl⟩, rfl⟩, rfl⟩, rfl⟩, rfl⟩, rfl⟩ := hv
  have hlower {a c : Char} (ha : a.isLower = true ∧ a ≠ 's') (hc : c ∈ letterForms a) :
      c.toLower = a := toLower_of_mem_letterForms ha.1 ha.2 hc
  have hthird : isRoleWord ([h, a, s, r, o, l, e] ++ u) = true ↔ 's' = s.toLower := by
    simp [isRoleWord, Text.asciiLower, hlower (by decide) hh, hlower (by decide) ha,
      hlower (by decide) hr, hlower (by decide) ho, hlower (by decide) hl, hlower (by decide) he]
  rw [hthird, eq_comm, toLower_eq_s_iff hs]
  simp

/-- A keyword introduces roles if it is the one for roles and its third letter is not the
long s. -/
theorem isRoleWord_iff {k : Keyword} {w : Text} (h : k.Matches w) :
    isRoleWord w = true ↔ Keyword.hasRole.Matches w ∧ w[2]? ≠ some 'ſ' := by
  cases k with
  | hasRole =>
    obtain ⟨v, u, rfl, hv⟩ := h.stem_spelled
    rw [isRoleWord_of_stem hv, and_iff_right h]
  | usesFeature =>
    refine iff_of_false ?_ (fun hrole => not_matches_hasRole h hrole.1)
    obtain ⟨c, v, rfl, hc⟩ := h.first_letter
    simp [isRoleWord, Text.asciiLower, hc]

end LuServer.Modifiers
