/-
# Sections of a document

A line that opens something begins a section, which holds the bullets up to the next such
line.  The same division, at the bullets that end with a colon, gives the values of a list
and their synonyms.  What a document says about a name stands in the sections of that name.

* `headed`: the members of a list that have a property, each with what follows it.
* `sections`: the lines that open something, with their bullets.
* `utterancesUnder`: the bullets under the headers of a name.
* `listValues`, `valuesUnder`: the values in some bullets, and under the definitions of a list.
* `sections_append_opener`, `sections_append_bullet`, `sections_append_other`: one more line.
-/
import LuServer.Model.Query
import LuServer.Proofs.Grammar.Sign
import Mathlib.Data.List.TakeWhile

namespace LuServer

theorem Text.dropLast?_eq_some {c : Char} {t r : Text} (h : t.dropLast? c = some r) :
    t.endsWith c = true ∧ r = t.dropLast := by
  unfold Text.dropLast? at h
  split at h
  · next hlast => exact ⟨by simp [Text.endsWith, hlast], (Option.some.inj h).symm⟩
  · cases h

theorem Text.dropLast?_eq_none {c : Char} {t : Text} (h : t.dropLast? c = none) :
    t.endsWith c = false := by
  unfold Text.dropLast? at h
  split at h
  · cases h
  · next hlast => simpa [Text.endsWith] using hlast

/-! ## Members and their followers -/

/-- The members with a property, each with the members that follow it up to the next one. -/
def headed {α : Type} (p : α → Bool) : List α → List (α × List α)
  | [] => []
  | x :: xs => if p x then (x, xs.takeWhile (!p ·)) :: headed p xs else headed p xs

theorem headed_of_forall {α : Type} {p : α → Bool} {xs : List α} (h : ∀ x ∈ xs, p x = false) :
    headed p xs = [] := by
  induction xs with
  | nil => rfl
  | cons x xs ih =>
    obtain ⟨hx, hxs⟩ := List.forall_mem_cons.mp h
    simp [headed, hx, ih hxs]

/-- One more member with the property has no followers yet. -/
theorem headed_append_head {α : Type} {p : α → Bool} {x : α} (hx : p x = true) (xs : List α) :
    headed p (xs ++ [x]) = headed p xs ++ [(x, [])] := by
  induction xs with
  | nil => simp [headed, hx]
  | cons y xs ih =>
    have htake : (xs ++ [x]).takeWhile (!p ·) = xs.takeWhile (!p ·) := by
      rw [List.takeWhile_append]
      split
      · next hlength =>
        rw [(List.takeWhile_prefix (!p ·)).eq_of_length hlength]
        simp [hx]
      · rfl
    rw [List.cons_append, headed, headed, ih, htake]
    split <;> rfl

/-- One more member without it follows the last one that has it, if there is one. -/
theorem headed_append_follower {α : Type} {p : α → Bool} {x : α} (hx : p x = false)
    (xs : List α) :
    ((∀ y ∈ xs, p y = false) ∧ headed p (xs ++ [x]) = []) ∨
    ∃ earlier head followers, headed p xs = earlier ++ [(head, followers)] ∧
      headed p (xs ++ [x]) = earlier ++ [(head, followers ++ [x])] := by
  induction xs with
  | nil => exact .inl ⟨by simp, by simp [headed, hx]⟩
  | cons y xs ih =>
    rw [List.cons_append, headed, headed]
    rcases ih with ⟨hnone, hnil⟩ | ⟨earlier, head, followers, hold, hnew⟩
    · cases hy : p y with
      | false => exact .inl ⟨by simpa [hy] using hnone, by simpa [hy] using hnil⟩
      | true =>
        have hall : ∀ z ∈ xs ++ [x], (!p z) = true := by
          intro z hz
          rcases List.mem_append.mp hz with hz | hz
          · simp [hnone z hz]
          · simp [List.mem_singleton.mp hz, hx]
        refine .inr ⟨[], y, xs, ?_, ?_⟩
        · rw [if_pos rfl, headed_of_forall hnone,
            List.takeWhile_eq_self_iff.mpr fun z hz => hall z (List.mem_append_left _ hz)]
          rfl
        · rw [if_pos rfl, hnil, List.takeWhile_eq_self_iff.mpr hall]
          rfl
    · cases hy : p y with
      | false => exact .inr ⟨earlier, head, followers, by simpa using hold, by simpa using hnew⟩
      | true =>
        -- a member with the property stands between `y` and `x`
        have hstop : (xs ++ [x]).takeWhile (!p ·) = xs.takeWhile (!p ·) := by
          rw [List.takeWhile_append, if_neg]
          intro hlength
          have hself := (List.takeWhile_prefix (!p ·)).eq_of_length hlength
          rw [headed_of_forall fun z hz =>
            by simpa using List.takeWhile_eq_self_iff.mp hself z hz] at hold
          simp at hold
        refine .inr ⟨(y, xs.takeWhile (!p ·)) :: earlier, head, followers, ?_, ?_⟩
        · rw [if_pos rfl, hold]
          rfl
        · rw [if_pos rfl, hstop, hnew]
          rfl

/-! ## Sections -/

/-- The lines that open something, each with the bullets up to the next one. -/
def sections (ls : List Text) : List (Text × List Text) :=
  (headed Line.opens ls).map fun s => (s.1, s.2.filterMap Line.bullet?)

theorem sections_append_opener {l : Text} (hl : Line.opens l = true) (ls : List Text) :
    sections (ls ++ [l]) = sections ls ++ [(l, [])] := by
  simp [sections, headed_append_head hl]

/-- A line that opens nothing and is no bullet does not count. -/
theorem sections_append_other {l : Text} (hl : Line.opens l = false)
    (hbullet : Line.bullet? l = none) (ls : List Text) : sections (ls ++ [l]) = sections ls := by
  rcases headed_append_follower hl ls with ⟨hnone, hnil⟩ | ⟨earlier, head, followers, hold, hnew⟩
  · rw [sections, sections, hnil, headed_of_forall hnone]
  · simp [sections, hold, hnew, hbullet]

/-- A bullet belongs to the last section. -/
theorem sections_append_bullet {l b : Text} (hl : Line.opens l = false)
    (hbullet : Line.bullet? l = some b) {ls : List Text} {earlier : List (Text × List Text)}
    {opener : Text} {bullets : List Text} (h : sections ls = earlier ++ [(opener, bullets)]) :
    sections (ls ++ [l]) = earlier ++ [(opener, bullets ++ [b])] := by
  rcases headed_append_follower hl ls with ⟨hnone, hnil⟩ | ⟨before, head, followers, hold, hnew⟩
  · rw [sections, headed_of_forall hnone] at h
    simp at h
  · rw [sections, hold, List.map_append, List.map_singleton] at h
    obtain ⟨rfl, hlast⟩ := List.append_inj' h rfl
    obtain ⟨rfl, rfl⟩ := Prod.mk.inj (List.singleton_inj.mp hlast)
    simp [sections, hnew, hbullet]

/-! ## What belongs to a name -/

/-- The bullets under the headers of a name. -/
def utterancesUnder (name : Text) (ls : List Text) : List Text :=
  (sections ls).flatMap fun s => if Line.heading? s.1 = some name then s.2 else []

/-- The values in some bullets: those that end with a colon, each with the bullets up to the
next one as synonyms. -/
def listValues (bullets : List Text) : List ListValue :=
  (headed (·.endsWith ':') bullets).map fun v => ⟨Text.trim v.1.dropLast, v.2⟩

/-- Whether a line opens the block of the list entity of a name: it defines the list, or has
the name, no kind and an equals sign or a colon, and the name is first of all that of a
list. -/
def opensList (m : Model) (name l : Text) : Bool :=
  match LineForm.ofLine l with
  | .definition (.ok (.typed kind other _ _)) => kind = .list ∧ other = name
  | .definition (.ok (.separated other _ body)) =>
    other = name ∧ body.isSome ∧ (m.entity? name).map Entity.kind = some .list
  | _ => false

/-- The values under the lines that open the block of the list entity of a name. -/
def valuesUnder (m : Model) (name : Text) (ls : List Text) : List ListValue :=
  (sections ls).flatMap fun s => if opensList m name s.1 then listValues s.2 else []

/-- A definition is no header. -/
theorem heading?_of_opensList {m : Model} {name l : Text} (h : opensList m name l = true) :
    Line.heading? l = none := by
  unfold opensList at h
  split at h
  · next hform => exact (Line.of_definition hform).2.1
  · next hform => exact (Line.of_definition hform).2.1
  · cases h

/-! ## One more line -/

theorem utterancesUnder_append {ls : List Text} {l : Text} {name : Text}
    (h : sections (ls ++ [l]) = sections ls ∨ sections (ls ++ [l]) = sections ls ++ [(l, [])]) :
    utterancesUnder name (ls ++ [l]) = utterancesUnder name ls := by
  unfold utterancesUnder
  rcases h with h | h
  · rw [h]
  · simp [h]

theorem valuesUnder_append {m : Model} {ls : List Text} {l : Text} {name : Text}
    (h : sections (ls ++ [l]) = sections ls ∨ sections (ls ++ [l]) = sections ls ++ [(l, [])]) :
    valuesUnder m name (ls ++ [l]) = valuesUnder m name ls := by
  unfold valuesUnder
  rcases h with h | h
  · rw [h]
  · simp [h, listValues, headed]

/-- A bullet that ends with a colon is a new value. -/
theorem listValues_append_value {b : Text} (hb : b.endsWith ':' = true) (bullets : List Text) :
    listValues (bullets ++ [b]) = listValues bullets ++ [⟨Text.trim b.dropLast, []⟩] := by
  have hnew := headed_append_head (p := fun t : Text => t.endsWith ':') hb bullets
  rw [listValues, hnew, List.map_append]
  rfl

/-- Any other bullet is a synonym of the last value. -/
theorem listValues_append_synonym {b : Text} (hb : b.endsWith ':' = false) {bullets : List Text}
    (hne : listValues bullets ≠ []) :
    ∃ earlier last, listValues bullets = earlier ++ [last] ∧
      listValues (bullets ++ [b])
        = earlier ++ [{ last with synonyms := last.synonyms ++ [b] }] := by
  rcases headed_append_follower (p := fun t : Text => t.endsWith ':') hb bullets with
    ⟨hnone, -⟩ | ⟨earlier, head, followers, hold, hnew⟩
  · exact absurd (by rw [listValues, headed_of_forall hnone]; rfl) hne
  · exact ⟨_, _, by rw [listValues, hold, List.map_append]; rfl,
      by rw [listValues, hnew, List.map_append]; rfl⟩

section Bullet

variable {ls : List Text} {l b opener : Text} {earlier : List (Text × List Text)}
  {bullets : List Text} (hold : sections ls = earlier ++ [(opener, bullets)])
  (hnew : sections (ls ++ [l]) = earlier ++ [(opener, bullets ++ [b])])

include hold hnew

theorem utterancesUnder_bullet {name : Text} (hname : Line.heading? opener = some name) :
    utterancesUnder name (ls ++ [l]) = utterancesUnder name ls ++ [b] := by
  simp [utterancesUnder, hold, hnew, hname]

theorem utterancesUnder_bullet_of_ne {name : Text} (hname : Line.heading? opener ≠ some name) :
    utterancesUnder name (ls ++ [l]) = utterancesUnder name ls := by
  simp [utterancesUnder, hold, hnew, hname]

theorem valuesUnder_bullet {m : Model} {name : Text} (hname : opensList m name opener = true) :
    ∃ before, valuesUnder m name ls = before ++ listValues bullets ∧
      valuesUnder m name (ls ++ [l]) = before ++ listValues (bullets ++ [b]) := by
  refine ⟨earlier.flatMap fun s => if opensList m name s.1 then listValues s.2 else [], ?_, ?_⟩
  · simp [valuesUnder, hold, hname]
  · simp [valuesUnder, hnew, hname]

theorem valuesUnder_bullet_of_not {m : Model} {name : Text}
    (hname : opensList m name opener = false) :
    valuesUnder m name (ls ++ [l]) = valuesUnder m name ls := by
  simp [valuesUnder, hold, hnew, hname]

end Bullet

end LuServer
