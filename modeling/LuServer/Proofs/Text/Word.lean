/-
# Words

A word has no blanks in it.  Where a text starts with one, it ends at the first blank or with the
text; so it is still there when blanks are taken away at the ends of the text, or when the text
is cut at a sign that the word does not have.

* `isBlank_of_isDotted`: the characters of names are not blank.
* `isDotted_of_toLower`: they can be told from their lower case.
* `Begins`: a text starts with a given word.
* `Begins.trim`, `Begins.of_cut`: and it still does after a cut.
* `nextWord_append`, `Begins.nextWord`: the word is then what is read first.
-/
import LuServer.Proofs.Text.Slice
import LuServer.Proofs.Text.Trim
import LuServer.Text.Word

namespace LuServer.Text

/-! ## Words are not blank -/

/-- The codes of the blanks. -/
def blankCodes : List Nat :=
  [9, 10, 11, 12, 13, 0x20, 0x85, 0xA0, 0x1680, 0x2000, 0x2001, 0x2002, 0x2003, 0x2004, 0x2005,
    0x2006, 0x2007, 0x2008, 0x2009, 0x200A, 0x2028, 0x2029, 0x202F, 0x205F, 0x3000]

theorem toNat_mem_blankCodes {c : Char} (h : isBlank c = true) : c.toNat ∈ blankCodes := by
  simp only [isBlank, Bool.or_eq_true, Bool.and_eq_true, decide_eq_true_eq, beq_iff_eq] at h
  simp only [blankCodes, List.mem_cons, List.not_mem_nil, or_false]
  omega

theorem isDotted_blankCodes : ∀ n ∈ blankCodes, isDotted (Char.ofNat n) = false := by
  decide +kernel

/-- A character of words is not blank. -/
theorem isBlank_of_isDotted {c : Char} (h : isDotted c = true) : isBlank c = false := by
  rw [Bool.eq_false_iff]
  intro hblank
  have hcode := isDotted_blankCodes c.toNat (toNat_mem_blankCodes hblank)
  rw [Char.ofNat_toNat, h] at hcode
  cases hcode

/-! ## Letters in lower case -/

theorem isDotted_capitals : ∀ n ∈ List.range' 65 26, isDotted (Char.ofNat n) = true := by
  decide +kernel

theorem isDotted_of_toLower {c : Char} (h : isDotted c.toLower = true) : isDotted c = true := by
  unfold Char.toLower at h
  split at h
  · next hcapital =>
    have hcode := isDotted_capitals c.toNat (by
      rw [List.mem_range'_1]
      obtain ⟨h1, h2⟩ := hcapital
      have h1' : 65 ≤ c.toNat := h1
      have h2' : c.toNat ≤ 90 := h2
      omega)
    rwa [Char.ofNat_toNat] at hcode
  · exact h

/-! ## The word at the start of a text -/

/-- A text starts with `word`, and after it there is a blank or nothing. -/
def Begins (word t : Text) : Prop :=
  ∃ rest, t = word ++ rest ∧ ∀ c ∈ rest.head?, isBlank c = true

theorem trimEnd_isPrefix (t : Text) : trimEnd t <+: t := by
  obtain ⟨bs, hbs, -⟩ := exists_trimEnd_append t
  exact ⟨bs, hbs.symm⟩

theorem trimEnd_word {word : Text} (h : ∀ c ∈ word, isBlank c = false) (rest : Text) :
    trimEnd (word ++ rest) = word ++ trimEnd rest := by
  induction word with
  | nil => rfl
  | cons c word ih =>
    obtain ⟨hc, hword⟩ := List.forall_mem_cons.mp h
    rw [List.cons_append, trimEnd_cons hc, ih hword, List.cons_append]

theorem eq_append_of_dropLast? {c : Char} {t r : Text} (h : t.dropLast? c = some r) :
    t = r ++ [c] := by
  unfold dropLast? at h
  split at h
  · next hlast =>
    obtain ⟨s, rfl⟩ := List.getLast?_eq_some_iff.mp hlast
    rw [List.dropLast_concat] at h
    rw [Option.some.inj h]
  · cases h

/-- What follows the word can be cut anywhere. -/
theorem head?_of_isPrefix {t rest : Text} (h : t <+: rest)
    (hrest : ∀ c ∈ rest.head?, isBlank c = true) : ∀ c ∈ t.head?, isBlank c = true := by
  obtain ⟨tail, rfl⟩ := h
  cases t with
  | nil => simp
  | cons c t => simpa using hrest

theorem trim_word {word : Text} (hne : word ≠ []) (hword : ∀ c ∈ word, isBlank c = false)
    (rest : Text) : trim (word ++ rest) = word ++ trimEnd rest := by
  rw [trim, trimStart_word hne hword, trimEnd_word hword]

/-- A word at the start of a text is read, and what follows it is left. -/
theorem nextWord_append {word rest : Text} (hne : word ≠ [])
    (hword : ∀ c ∈ word, isBlank c = false) (hrest : ∀ c ∈ rest.head?, isBlank c = true) :
    nextWord (word ++ rest) = (word, trim rest) := by
  have hhead := head?_of_isPrefix (trimEnd_isPrefix rest) hrest
  rw [nextWord, trim_word hne hword, ← trim_trimEnd rest]
  cases hblank : trimEnd rest with
  | nil =>
    have hall : ∀ c ∈ word, (!isBlank c) = true := by
      intro c hc
      rw [hword c hc]
      rfl
    rw [List.append_nil, List.takeWhile_eq_self_iff.mpr hall, List.dropWhile_eq_nil_iff.mpr hall]
  | cons c tail =>
    rw [hblank] at hhead
    obtain ⟨htake, hdrop⟩ := takeWhile_of_first tail hword (hhead c rfl)
    rw [htake, hdrop]

namespace Begins

variable {word t : Text}

/-- A cut at a sign that the word does not have leaves the word. -/
theorem of_cut {header tail : Text} {c : Char} (h : Begins word (header ++ c :: tail))
    (hc : c ∉ word) : Begins word header := by
  obtain ⟨rest, hrest, hhead⟩ := h
  rcases List.append_eq_append_iff.mp hrest with ⟨between, hword, htail⟩ | ⟨between, hheader, hcut⟩
  · -- the cut is right after the word, or would be inside of it
    cases between with
    | nil => exact ⟨[], by simpa using hword.symm, by simp⟩
    | cons x between =>
      obtain rfl : c = x := (List.cons.inj htail).1
      exact absurd (hword ▸ List.mem_append_right _ List.mem_cons_self) hc
  · exact ⟨between, hheader, head?_of_isPrefix ⟨c :: tail, hcut.symm⟩ hhead⟩

section Word

variable (hne : word ≠ []) (hword : ∀ c ∈ word, isBlank c = false)
include hne hword

theorem trim (h : Begins word t) : Begins word t.trim := by
  obtain ⟨rest, rfl, hhead⟩ := h
  refine ⟨trimEnd rest, ?_, head?_of_isPrefix (trimEnd_isPrefix rest) hhead⟩
  rw [trim_word hne hword]

theorem nextWord (h : Begins word t) : (Text.nextWord t).1 = word := by
  obtain ⟨rest, rfl, hhead⟩ := h
  rw [nextWord_append hne hword hhead]

end Word

end Begins

end LuServer.Text
