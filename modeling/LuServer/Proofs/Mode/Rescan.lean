/-
# Remembered modes and scanned modes

A cache that is carried from one version of a text to the next is the cache of the
last version, read from scratch, whatever the versions before it were.

* `getElem?_scan`: what stands where in a cache.
* `take_sharedLines`: two texts agree on the lines that they share.
* `update_ofText`: one update gives the cache of the new text.
* `versions_eq`: so does a chain of updates.
* `modeAt_ofText`: a cache answers as a scan of the text does.
-/
import LuServer.Mode.Cache
import Mathlib.Tactic.Set

namespace LuServer

namespace ModeCache

/-! ## A cache from scratch -/

/-- Entry `n` of a scan is the mode after `n` lines. -/
theorem getElem?_scan (m : Mode) (ls : List Text) {n : Nat} (hn : n ≤ ls.length) :
    (m :: modesAfter m ls)[n]? = some (m.afterLines (ls.take n)) := by
  induction ls generalizing m n with
  | nil =>
    obtain rfl : n = 0 := by simpa using hn
    rfl
  | cons l ls ih =>
    cases n with
    | zero => rfl
    | succ n =>
      rw [List.length_cons] at hn
      rw [List.getElem?_cons_succ, modesAfter, ih (m.advance l) (by omega), List.take_succ_cons,
        Mode.afterLines_cons]

/-- The last entry of a scan is the mode after all lines. -/
theorem getLastD_scan (m d : Mode) (ls : List Text) :
    (m :: modesAfter m ls).getLastD d = m.afterLines ls := by
  induction ls generalizing m d with
  | nil => rfl
  | cons l ls ih =>
    rw [modesAfter, List.getLastD_cons, ih, Mode.afterLines_cons]

/-- The start of a scan is the scan of the first lines. -/
theorem take_scan (m : Mode) (ls : List Text) (k : Nat) :
    (m :: modesAfter m ls).take (k + 1) = m :: modesAfter m (ls.take k) := by
  induction ls generalizing m k with
  | nil => simp [modesAfter]
  | cons l ls ih =>
    cases k with
    | zero => rfl
    | succ k => rw [List.take_succ_cons, modesAfter, ih, List.take_succ_cons, modesAfter]

/-- A cache holds one mode for each line and one for the place after the last. -/
theorem size_ofText (t : Text) : (ofText t).size = t.lineCount + 1 := by
  rw [size, ofText, ofLines, List.length_cons, length_modesAfter, Text.lineCount]

/-- A cache answers as a scan of the text does, also past its end. -/
theorem modeAt_ofText (t : Text) (n : Nat) : (ofText t).modeAt n = Mode.classify t n := by
  rw [modeAt, ofText, ofLines, Mode.classify, List.getD_eq_getElem?_getD]
  by_cases hn : n ≤ t.lines.length
  · rw [getElem?_scan _ _ hn, Option.getD_some]
  · have hout : (Mode.other :: modesAfter .other t.lines).length ≤ n := by
      rw [List.length_cons, length_modesAfter]
      omega
    rw [List.getElem?_eq_none hout, Option.getD_none, getLastD_scan,
      List.take_of_length_le (by omega)]

/-! ## Updates -/

/-- Two texts agree on the lines that they share. -/
theorem take_sharedLines (as bs : List Text) :
    as.take (sharedLines as bs) = bs.take (sharedLines as bs) := by
  induction as generalizing bs with
  | nil => simp [sharedLines]
  | cons a as ih =>
    cases bs with
    | nil => simp [sharedLines]
    | cons b bs =>
      rw [sharedLines]
      split
      · rename_i hab
        rw [List.take_succ_cons, List.take_succ_cons, ih, hab]
      · rfl

/-- The shared lines are lines of the second text. -/
theorem sharedLines_le (as bs : List Text) : sharedLines as bs ≤ bs.length := by
  induction as generalizing bs with
  | nil => simp [sharedLines]
  | cons a as ih =>
    cases bs with
    | nil => simp [sharedLines]
    | cons b bs =>
      rw [sharedLines]
      split
      · rw [List.length_cons]
        exact Nat.succ_le_succ (ih bs)
      · exact Nat.zero_le _

/-- An update of the cache of one text gives the cache of the other. -/
theorem update_ofText (old new : Text) : (ofText old).update old new = ofText new := by
  set k := sharedLines old.lines new.lines with hk
  -- what is kept is a scan of the shared lines, so reading the rest completes the scan
  have hkept : (ofText old).modes.take (k + 1)
      = .other :: modesAfter .other (new.lines.take k) := by
    rw [ofText, ofLines, take_scan, hk, take_sharedLines]
  have hlength : (Mode.other :: modesAfter .other (new.lines.take k)).length - 1 = k := by
    have hle := sharedLines_le old.lines new.lines
    rw [List.length_cons, length_modesAfter, List.length_take]
    omega
  simp only [update, ← hk, hkept, hlength, getLastD_scan]
  rw [List.cons_append, ← modesAfter_append, List.take_append_drop, ofText, ofLines]

/-- A chain of updates gives the caches of its texts. -/
theorem updates_ofText (t : Text) (ts : List Text) :
    updates (ofText t) t ts = ts.map ofText := by
  induction ts generalizing t with
  | nil => rfl
  | cons next ts ih => rw [updates, update_ofText, ih, List.map_cons]

/-- Along a chain of texts each cache is that of its text. -/
theorem versions_eq (ts : List Text) : versions ts = ts.map ofText := by
  cases ts with
  | nil => rfl
  | cons t ts => rw [versions, updates_ofText, List.map_cons]

end ModeCache

end LuServer
