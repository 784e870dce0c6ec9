/-
# Cutting texts

Splitting a text at a character, and removing a given beginning or end.

* `Text.cutAt`: the parts before and after the first occurrence of a character.
* `Text.dropHead?`, `Text.dropLast?`: removal of one given character at an end.
* `Text.dropStart?`: removal of a given beginning.
* `Text.nextWord`: the first word and what follows it.
* `Text.items`: the entries of a comma-separated list.
-/
import LuServer.Text.Blank

namespace LuServer.Text

/-- The parts before and after the first `c`, if `c` occurs. -/
def cutAt (c : Char) : Text → Option (Text × Text)
  | [] => none
  | x :: r =>
    if x = c then some ([], r)
    else (cutAt c r).map fun parts => (x :: parts.1, parts.2)

/-- The part before the first `c`, or the whole text. -/
def upTo (c : Char) (t : Text) : Text :=
  t.takeWhile (· ≠ c)

/-- The rest after a leading `c`. -/
def dropHead? (c : Char) : Text → Option Text
  | [] => none
  | x :: r => if x = c then some r else none

/-- The rest before a trailing `c`. -/
def dropLast? (c : Char) (t : Text) : Option Text :=
  if t.getLast? = some c then some t.dropLast else none

/-- The rest of the first text after the second, if it begins with that. -/
def dropStart? : Text → Text → Option Text
  | t, [] => some t
  | [], _ :: _ => none
  | x :: t, a :: p => if x = a then dropStart? t p else none

/-- The text between a leading `a` and a trailing `b`, two different places. -/
def between? (a b : Char) (t : Text) : Option Text :=
  (dropHead? a t).bind (dropLast? b)

/-- Whether a text ends with `c`. -/
def endsWith (t : Text) (c : Char) : Bool :=
  t.getLast? == some c

/-- The first word and the rest, both without blanks at the ends. -/
def nextWord (t : Text) : Text × Text :=
  let s := trim t
  (s.takeWhile (!isBlank ·), trim (s.dropWhile (!isBlank ·)))

/-- The entries of a comma-separated list, without quotes and blanks at their
ends.  Empty entries do not count. -/
def items (t : Text) : List Text :=
  ((t.splitOn ',').map unquote).filter (· ≠ [])

/-- The letters of the ASCII alphabet in lower case, all else unchanged. -/
def asciiLower (t : Text) : Text :=
  t.map Char.toLower

theorem cutAt_eq_some {c : Char} {t a b : Text} (h : cutAt c t = some (a, b)) :
    t = a ++ c :: b ∧ c ∉ a := by
  induction t generalizing a with
  | nil => simp [cutAt] at h
  | cons x r ih =>
    by_cases hx : x = c
    · simp [cutAt, hx] at h
      obtain ⟨rfl, rfl⟩ := h
      simp [hx]
    · simp only [cutAt, hx, if_false, Option.map_eq_some_iff, Prod.mk.injEq] at h
      obtain ⟨⟨a', b'⟩, hc, rfl, rfl⟩ := h
      obtain ⟨rfl, hn⟩ := ih hc
      exact ⟨rfl, by simp [hn, Ne.symm hx]⟩

theorem cutAt_eq_none {c : Char} {t : Text} : cutAt c t = none ↔ c ∉ t := by
  induction t with
  | nil => simp [cutAt]
  | cons x r ih =>
    by_cases hx : x = c
    · simp [cutAt, hx]
    · simp [cutAt, hx, ih, Ne.symm hx]

theorem dropHead?_eq_some {c : Char} {t r : Text} : dropHead? c t = some r ↔ t = c :: r := by
  cases t with
  | nil => simp [dropHead?]
  | cons x s => by_cases hx : x = c <;> simp [dropHead?, hx]

theorem dropStart?_eq_some {p t r : Text} : dropStart? t p = some r ↔ t = p ++ r := by
  induction p generalizing t with
  | nil => cases t <;> simp [dropStart?]
  | cons a p ih =>
    cases t with
    | nil => simp [dropStart?]
    | cons x s => by_cases hx : x = a <;> simp [dropStart?, hx, ih]

end LuServer.Text
