/-
# Slices by byte offsets

A text in memory is cut by byte offsets, and a cut fails if an offset is not the start of
a character or the end of the text, or if the end lies before the start.  The cuts at
places that a search has found do not fail.

* `Text.slice?`: the part of a text between two offsets, if there is one.
* `Text.find?`: the offset of the first character with a property.
* `Text.slice?_eq_some`: which cuts do not fail, and what they give.
* `Text.slice?_append`: the slice of a part that is known to be there.
* `Text.find?_cases`: a search, and the two parts around its result.
-/
import LuServer.Text.Cut
import LuServer.Text.Position

namespace LuServer.Text

/-- The text from byte `n` on, if a character starts there or the text ends. -/
def fromByte? : Text → Nat → Option Text
  | t, 0 => some t
  | [], _ + 1 => none
  | c :: r, n + 1 => if c.utf8Size ≤ n + 1 then fromByte? r (n + 1 - c.utf8Size) else none

/-- The text before byte `n`, if a character starts there or the text ends. -/
def toByte? : Text → Nat → Option Text
  | _, 0 => some []
  | [], _ + 1 => none
  | c :: r, n + 1 =>
    if c.utf8Size ≤ n + 1 then (toByte? r (n + 1 - c.utf8Size)).map (c :: ·) else none

/-- The text from byte `i` up to byte `j`, if both are places of it in this order. -/
def slice? (t : Text) (i j : Nat) : Option Text :=
  if i ≤ j then (t.toByte? j).bind (·.fromByte? i) else none

/-- The offset of the first character with a property. -/
def find? (p : Char → Bool) : Text → Option Nat
  | [] => none
  | c :: r => if p c then some 0 else (find? p r).map (c.utf8Size + ·)

/-! ## Parts that are there -/

@[simp] theorem byteSize_nil : byteSize [] = 0 := rfl

@[simp] theorem byteSize_cons (c : Char) (t : Text) :
    byteSize (c :: t) = c.utf8Size + byteSize t := rfl

@[simp] theorem byteSize_append (s t : Text) : byteSize (s ++ t) = byteSize s + byteSize t := by
  induction s with
  | nil => simp
  | cons c s ih => rw [List.cons_append, byteSize_cons, byteSize_cons, ih, Nat.add_assoc]

theorem toByte?_append (s t : Text) : (s ++ t).toByte? s.byteSize = some s := by
  induction s with
  | nil =>
    cases t with
    | nil => rfl
    | cons c t => rfl
  | cons c s ih =>
    obtain ⟨n, hn⟩ := Nat.exists_eq_add_of_lt c.utf8Size_pos
    rw [byteSize_cons, show c.utf8Size + byteSize s = n + byteSize s + 1 by omega, List.cons_append,
      toByte?, if_pos (by omega), show n + byteSize s + 1 - c.utf8Size = byteSize s by omega, ih]
    rfl

theorem fromByte?_append (s t : Text) : (s ++ t).fromByte? s.byteSize = some t := by
  induction s with
  | nil => cases t <;> rfl
  | cons c s ih =>
    obtain ⟨n, hn⟩ := Nat.exists_eq_add_of_lt c.utf8Size_pos
    rw [byteSize_cons, show c.utf8Size + byteSize s = n + byteSize s + 1 by omega, List.cons_append,
      fromByte?, if_pos (by omega), show n + byteSize s + 1 - c.utf8Size = byteSize s by omega, ih]

theorem toByte?_eq_some {t s : Text} {n : Nat} :
    t.toByte? n = some s ↔ ∃ after, t = s ++ after ∧ n = s.byteSize := by
  constructor
  · intro h
    fun_induction toByte? t n generalizing s with
    | case1 t =>
      obtain rfl := Option.some.inj h
      exact ⟨t, rfl, rfl⟩
    | case2 => cases h
    | case3 c r n hle ih =>
      obtain ⟨head, hhead, rfl⟩ := Option.map_eq_some_iff.mp h
      obtain ⟨after, rfl, hsize⟩ := ih hhead
      exact ⟨after, rfl, by rw [byteSize_cons, ← hsize]; omega⟩
    | case4 => cases h
  · rintro ⟨after, rfl, rfl⟩
    exact toByte?_append s after

theorem fromByte?_eq_some {t s : Text} {n : Nat} :
    t.fromByte? n = some s ↔ ∃ before, t = before ++ s ∧ n = before.byteSize := by
  constructor
  · intro h
    fun_induction fromByte? t n with
    | case1 t =>
      obtain rfl := Option.some.inj h
      exact ⟨[], rfl, rfl⟩
    | case2 => cases h
    | case3 c r n hle ih =>
      obtain ⟨before, rfl, hsize⟩ := ih h
      exact ⟨c :: before, rfl, by rw [byteSize_cons, ← hsize]; omega⟩
    | case4 => cases h
  · rintro ⟨before, rfl, rfl⟩
    exact fromByte?_append before s

/-- A slice is a part of the text, and its offsets are the sizes of what stands before its two
ends. -/
theorem slice?_eq_some {t s : Text} {i j : Nat} :
    t.slice? i j = some s ↔ ∃ before after, t = before ++ s ++ after ∧ i = before.byteSize ∧
      j = before.byteSize + s.byteSize := by
  unfold slice?
  split
  · rw [Option.bind_eq_some_iff]
    constructor
    · rintro ⟨head, hhead, htail⟩
      obtain ⟨after, rfl, rfl⟩ := toByte?_eq_some.mp hhead
      obtain ⟨before, rfl, rfl⟩ := fromByte?_eq_some.mp htail
      exact ⟨before, after, rfl, rfl, byteSize_append before s⟩
    · rintro ⟨before, after, rfl, rfl, rfl⟩
      exact ⟨before ++ s, toByte?_eq_some.mpr ⟨after, rfl, (byteSize_append before s).symm⟩,
        fromByte?_append before s⟩
  · next hle =>
    constructor
    · rintro ⟨⟩
    · rintro ⟨before, after, -, rfl, rfl⟩
      exact absurd (Nat.le_add_right _ _) hle

/-- A text is cut into two parts at an offset in one way only. -/
theorem append_inj_of_byteSize {s r a b : Text} (h : s ++ a = r ++ b)
    (hsize : s.byteSize = r.byteSize) : s = r ∧ a = b := by
  induction s generalizing r with
  | nil =>
    cases r with
    | nil => exact ⟨rfl, h⟩
    | cons d r =>
      have hd := d.utf8Size_pos
      rw [byteSize_nil, byteSize_cons] at hsize
      omega
  | cons c s ih =>
    cases r with
    | nil =>
      have hc := c.utf8Size_pos
      rw [byteSize_nil, byteSize_cons] at hsize
      omega
    | cons d r =>
      obtain ⟨rfl, htail⟩ := List.cons.inj h
      obtain ⟨rfl, rfl⟩ := ih htail (by simpa using hsize)
      exact ⟨rfl, rfl⟩

/-- Of two beginnings of a text the one with fewer bytes is a beginning of the other. -/
theorem prefix_of_byteSize_le {s r t : Text} (hs : s <+: t) (hr : r <+: t)
    (h : s.byteSize ≤ r.byteSize) : s <+: r := by
  rcases List.prefix_or_prefix_of_prefix hs hr with hsr | ⟨rest, rfl⟩
  · exact hsr
  · cases rest with
    | nil => simp
    | cons c rest =>
      have hc := c.utf8Size_pos
      rw [byteSize_append, byteSize_cons] at h
      omega

/-- The slice between the parts before and after it. -/
theorem slice?_append (before s after : Text) {i j : Nat} (hi : i = before.byteSize)
    (hj : j = before.byteSize + s.byteSize) : (before ++ s ++ after).slice? i j = some s :=
  slice?_eq_some.mpr ⟨before, after, rfl, hi, hj⟩

theorem slice?_start (s after : Text) : (s ++ after).slice? 0 s.byteSize = some s := by
  simpa using slice?_append [] s after rfl (by simp)

theorem slice?_end (before s : Text) :
    (before ++ s).slice? before.byteSize (before ++ s).byteSize = some s := by
  simpa using slice?_append before s [] rfl (byteSize_append before s)

/-! ## Searches -/

/-- A search ends before the first character with the property, or at the end. -/
theorem find?_cases (p : Char → Bool) (t : Text) :
    (find? p t = none ∧ ∀ c ∈ t, p c = false) ∨
    ∃ before c after, t = before ++ c :: after ∧ p c = true ∧ (∀ b ∈ before, p b = false) ∧
      find? p t = some (byteSize before) := by
  induction t with
  | nil => exact .inl ⟨rfl, by simp⟩
  | cons c t ih =>
    rw [find?]
    cases hc : p c with
    | true => exact .inr ⟨[], c, t, rfl, hc, by simp, rfl⟩
    | false =>
      rcases ih with ⟨hnone, hall⟩ | ⟨before, d, after, rfl, hd, hbefore, hsome⟩
      · exact .inl ⟨by simp [hnone], by simpa [hc] using hall⟩
      · refine .inr ⟨c :: before, d, after, rfl, hd, by simpa [hc] using hbefore, ?_⟩
        simp [hsome]

/-- The longest beginning with a property ends where the property does. -/
theorem takeWhile_of_boundary {p : Char → Bool} {word : Text} {c : Char} (rest : Text)
    (hword : ∀ b ∈ word, p b = true) (hc : p c = false) :
    (word ++ c :: rest).takeWhile p = word ∧ (word ++ c :: rest).dropWhile p = c :: rest := by
  constructor
  · rw [List.takeWhile_append_of_pos hword, List.takeWhile_cons, hc]
    simp
  · rw [List.dropWhile_append_of_pos hword, List.dropWhile_cons, hc]
    simp

theorem takeWhile_of_first {p : Char → Bool} {before : Text} {c : Char} (after : Text)
    (hbefore : ∀ b ∈ before, p b = false) (hc : p c = true) :
    (before ++ c :: after).takeWhile (!p ·) = before ∧
      (before ++ c :: after).dropWhile (!p ·) = c :: after := by
  refine takeWhile_of_boundary after ?_ (by rw [hc]; rfl)
  intro b hb
  rw [hbefore b hb]
  rfl

end LuServer.Text
