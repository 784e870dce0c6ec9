/-
# Trimmed texts

What the blanks at the ends of a text do to its trimmed form: nothing, however many
there are and whether they stand at one end or at both.

* `trim_append_blanks`, `trim_blanks_append`: blanks at an end do not count.
* `trim_dropReturn`: a line means the same with and without its carriage return.
* `trim_sign`, `trimStart_append_cons`, `trimEnd_append_cons`: a sign stops the trimming.
* `trim_of_not_blank`: a text without blanks stays as it is.
* `mem_trim`, `trim_eq_nil_iff`: only blanks vanish.
* `Tight`, `Tight.append`: texts with no blank at either end, alone and joined.
* `trim_upTo_trim`: it does not matter whether a text is trimmed before it is cut.
-/
import LuServer.Text.Cut
import LuServer.Text.Lines
import Mathlib.Data.List.TakeWhile

namespace LuServer.Text

/-! ## Blanks at an end -/

theorem trimStart_blanks_append {bs : Text} (hbs : ∀ b ∈ bs, isBlank b = true) (t : Text) :
    trimStart (bs ++ t) = trimStart t := by
  rw [trimStart, List.dropWhile_append_of_pos hbs, trimStart]

theorem trimEnd_append_blanks {bs : Text} (hbs : ∀ b ∈ bs, isBlank b = true) (t : Text) :
    trimEnd (t ++ bs) = trimEnd t := by
  have hreverse : ∀ b ∈ bs.reverse, isBlank b = true := by
    intro b hb
    exact hbs b (List.mem_reverse.mp hb)
  rw [trimEnd, dropWhileEnd, List.reverse_append, List.dropWhile_append_of_pos hreverse, trimEnd,
    dropWhileEnd]

theorem trim_blanks_append {bs : Text} (hbs : ∀ b ∈ bs, isBlank b = true) (t : Text) :
    trim (bs ++ t) = trim t := by
  rw [trim, trimStart_blanks_append hbs, trim]

theorem trim_append_blanks {bs : Text} (hbs : ∀ b ∈ bs, isBlank b = true) (t : Text) :
    trim (t ++ bs) = trim t := by
  rw [trim, trimStart, List.dropWhile_append, trim, trimStart]
  split
  · next hblank =>
    -- nothing but blanks on both sides
    rw [List.isEmpty_iff.mp hblank, ← List.append_nil bs, List.dropWhile_append_of_pos hbs]
    rfl
  · exact trimEnd_append_blanks hbs _

/-- What is cut off at the end of a text is blank. -/
theorem exists_trimEnd_append (t : Text) :
    ∃ bs, t = trimEnd t ++ bs ∧ ∀ b ∈ bs, isBlank b = true := by
  refine ⟨(t.reverse.takeWhile isBlank).reverse, ?_, ?_⟩
  · rw [trimEnd, dropWhileEnd, ← List.reverse_append, List.takeWhile_append_dropWhile,
      List.reverse_reverse]
  · intro b hb
    exact List.mem_takeWhile_imp (List.mem_reverse.mp hb)

theorem trim_trimEnd (t : Text) : trim (trimEnd t) = trim t := by
  obtain ⟨bs, ht, hbs⟩ := exists_trimEnd_append t
  calc trim (trimEnd t) = trim (trimEnd t ++ bs) := (trim_append_blanks hbs _).symm
    _ = trim t := by rw [← ht]

theorem trim_trimStart (t : Text) : trim (trimStart t) = trim t := by
  have hblank : ∀ b ∈ t.takeWhile isBlank, isBlank b = true := fun b hb => List.mem_takeWhile_imp hb
  rw [← trim_blanks_append hblank, trimStart, List.takeWhile_append_dropWhile]

theorem trim_trim (t : Text) : trim (trim t) = trim t := by
  calc trim (trim t) = trim (trimStart t) := trim_trimEnd (trimStart t)
    _ = trim t := trim_trimStart t

/-- A carriage return at the end of a line does not count. -/
theorem trim_dropReturn (l : Text) : trim (dropReturn l) = trim l := by
  unfold dropReturn
  split
  · next hlast =>
    obtain ⟨s, rfl⟩ := List.getLast?_eq_some_iff.mp hlast
    rw [List.dropLast_concat, trim_append_blanks (List.all_eq_true.mp (by decide))]
  · rfl

/-! ## Signs -/

/-- A sign at the start of a text stops the trimming from the end. -/
theorem trimEnd_cons {c : Char} (hc : isBlank c = false) (t : Text) :
    trimEnd (c :: t) = c :: trimEnd t := by
  rw [trimEnd, dropWhileEnd, List.reverse_cons, List.dropWhile_append, trimEnd, dropWhileEnd]
  split
  · next hblank => simp [List.isEmpty_iff.mp hblank, hc]
  · simp

theorem trimStart_cons {c : Char} (hc : isBlank c = false) (t : Text) :
    trimStart (c :: t) = c :: t := by
  rw [trimStart, List.dropWhile_cons, hc]
  rfl

/-- A text that starts with a sign after some blanks still does so when it is
trimmed. -/
theorem trim_sign {bs : Text} (hbs : ∀ b ∈ bs, isBlank b = true) {c : Char}
    (hc : isBlank c = false) (t : Text) : trim (bs ++ c :: t) = c :: trimEnd t := by
  rw [trim_blanks_append hbs, trim, trimStart_cons hc, trimEnd_cons hc]

/-- In front of a sign only leading blanks are removed. -/
theorem trimStart_append_cons (s : Text) {c : Char} (hc : isBlank c = false) (t : Text) :
    trimStart (s ++ c :: t) = trimStart s ++ c :: t := by
  rw [trimStart, List.dropWhile_append, trimStart]
  split
  · next hblank =>
    rw [List.isEmpty_iff.mp hblank, List.nil_append, List.dropWhile_cons, hc]
    rfl
  · rfl

/-- Behind a sign only trailing blanks are removed. -/
theorem trimEnd_append_cons (s : Text) {c : Char} (hc : isBlank c = false) (t : Text) :
    trimEnd (s ++ c :: t) = s ++ c :: trimEnd t := by
  rw [trimEnd, dropWhileEnd, List.reverse_append, List.reverse_cons, List.dropWhile_append,
    List.dropWhile_append, trimEnd, dropWhileEnd]
  split
  · next hblank => simp_all
  · simp

/-! ## Texts without blanks -/

theorem dropWhile_of_not {p : Char → Bool} {t : Text} (h : ∀ c ∈ t, p c = false) :
    t.dropWhile p = t := by
  cases t with
  | nil => rfl
  | cons c t =>
    rw [List.dropWhile_cons, h c List.mem_cons_self]
    rfl

theorem dropWhileEnd_of_not {p : Char → Bool} {t : Text} (h : ∀ c ∈ t, p c = false) :
    dropWhileEnd p t = t := by
  rw [dropWhileEnd, dropWhile_of_not, List.reverse_reverse]
  intro c hc
  exact h c (List.mem_reverse.mp hc)

theorem trim_of_not_blank {t : Text} (h : ∀ c ∈ t, isBlank c = false) : trim t = t := by
  rw [trim, trimStart, dropWhile_of_not h, trimEnd, dropWhileEnd_of_not h]

theorem trimStart_word {word : Text} (hne : word ≠ []) (h : ∀ c ∈ word, isBlank c = false)
    (rest : Text) : trimStart (word ++ rest) = word ++ rest := by
  obtain ⟨c, tail, rfl⟩ := List.exists_cons_of_ne_nil hne
  exact trimStart_cons (h c List.mem_cons_self) (tail ++ rest)

/-! ## Characters of a trimmed text -/

theorem mem_of_mem_trim {c : Char} {t : Text} (h : c ∈ trim t) : c ∈ t := by
  rw [trim, trimEnd, dropWhileEnd, List.mem_reverse] at h
  have hstart : c ∈ (trimStart t).reverse := (List.dropWhile_suffix _).subset h
  exact (List.dropWhile_suffix _).subset (List.mem_reverse.mp hstart)

/-- Around a trimmed text there are blanks only. -/
theorem exists_around_trim (t : Text) :
    ∃ as bs, t = as ++ (trim t ++ bs) ∧ (∀ a ∈ as, isBlank a = true) ∧
      ∀ b ∈ bs, isBlank b = true := by
  obtain ⟨bs, hbs, hblank⟩ := exists_trimEnd_append (trimStart t)
  refine ⟨t.takeWhile isBlank, bs, ?_, fun a ha => List.mem_takeWhile_imp ha, hblank⟩
  rw [trim, ← hbs, trimStart, List.takeWhile_append_dropWhile]

/-- What is not blank is not trimmed away. -/
theorem mem_trim {c : Char} (hc : isBlank c = false) {t : Text} (h : c ∈ t) : c ∈ trim t := by
  obtain ⟨as, bs, ht, has, hbs⟩ := exists_around_trim t
  rw [ht, List.mem_append, List.mem_append] at h
  rcases h with h | h | h
  · exact absurd (has c h) (by simp [hc])
  · exact h
  · exact absurd (hbs c h) (by simp [hc])

theorem trim_eq_nil_iff {t : Text} : trim t = [] ↔ ∀ c ∈ t, isBlank c = true := by
  constructor
  · intro h c hc
    by_contra hblank
    have hmem := mem_trim (Bool.eq_false_iff.mpr hblank) hc
    rw [h] at hmem
    exact List.not_mem_nil hmem
  · intro h
    rw [← List.append_nil t, trim_blanks_append h, trim_nil]

/-- A cut at a sign leaves the same part of a text and of its trimmed form, blanks apart. -/
theorem trim_upTo_trim {c : Char} (hc : isBlank c = false) (t : Text) :
    trim (upTo c (trim t)) = trim (upTo c t) := by
  obtain ⟨as, bs, ht, has, hbs⟩ := exists_around_trim t
  have hkept {s : Text} (hs : ∀ b ∈ s, isBlank b = true) : ∀ b ∈ s, decide (b ≠ c) = true := by
    intro b hb
    refine decide_eq_true ?_
    rintro rfl
    rw [hs b hb] at hc
    cases hc
  conv => rhs; rw [ht]
  rw [upTo, upTo, List.takeWhile_append_of_pos (hkept has), trim_blanks_append has,
    List.takeWhile_append]
  split
  · next hall =>
    -- the sign does not occur, and the blanks at the end are taken along
    have hwhole : (trim t).takeWhile (· ≠ c) = trim t :=
      (List.takeWhile_prefix _).eq_of_length hall
    rw [← List.append_nil bs, List.takeWhile_append_of_pos (hkept hbs), List.takeWhile_nil,
      List.append_nil, trim_append_blanks hbs, hwhole]
  · rfl

/-! ## Texts without blanks at the ends -/

theorem isBlank_space : ∀ b ∈ [' '], isBlank b = true :=
  List.all_eq_true.mp (by decide)

/-- A text has a character at each end that is not blank. -/
def Tight (t : Text) : Prop :=
  (∃ c ∈ t.head?, isBlank c = false) ∧ ∃ c ∈ t.getLast?, isBlank c = false

theorem dropWhile_of_head {p : Char → Bool} {t : Text} (h : ∃ c ∈ t.head?, p c = false) :
    t.dropWhile p = t := by
  obtain ⟨c, hc, hp⟩ := h
  obtain ⟨s, rfl⟩ := List.head?_eq_some_iff.mp hc
  rw [List.dropWhile_cons, hp]
  rfl

theorem Tight.trim {t : Text} (h : Tight t) : trim t = t := by
  have hreverse : t.reverse.dropWhile isBlank = t.reverse := by
    refine dropWhile_of_head ?_
    rw [List.head?_reverse]
    exact h.2
  rw [Text.trim, trimStart, dropWhile_of_head h.1, trimEnd, dropWhileEnd, hreverse,
    List.reverse_reverse]

theorem Tight.ne_nil {t : Text} (h : Tight t) : t ≠ [] := by
  rintro rfl
  obtain ⟨c, hc, -⟩ := h.1
  cases hc

theorem tight_singleton {c : Char} (hc : isBlank c = false) : Tight [c] :=
  ⟨⟨c, rfl, hc⟩, c, rfl, hc⟩

theorem tight_of_not_blank {t : Text} (hne : t ≠ []) (h : ∀ c ∈ t, isBlank c = false) :
    Tight t :=
  ⟨⟨t.head hne, List.head?_eq_some_head hne, h _ (List.head_mem hne)⟩,
    t.getLast hne, List.getLast?_eq_some_getLast hne, h _ (List.getLast_mem hne)⟩

theorem Tight.append {s t : Text} (hs : Tight s) (between : Text) (ht : Tight t) :
    Tight (s ++ (between ++ t)) := by
  obtain ⟨c, hc, hblank⟩ := hs.1
  obtain ⟨d, hd, hblank'⟩ := ht.2
  rw [Option.mem_def] at hc hd
  refine ⟨⟨c, ?_, hblank⟩, d, ?_, hblank'⟩
  · rw [Option.mem_def, List.head?_append, hc, Option.some_or]
  · rw [Option.mem_def, List.getLast?_append, List.getLast?_append, hd, Option.some_or,
      Option.some_or]

end LuServer.Text
