/-
# Columns and offsets

A column counts UTF-16 units from the start of a line, an offset counts bytes from the start of
a text.  A column stands for the place where the shortest beginning of its line ends that has as
many units: after a character if the column falls inside of it, and at the end of the line if
the line has fewer units.  Every place of a line between two characters has such a column.

* `Text.Shortest`: the beginning of a line that a column stands for.
* `Text.shortest_takeUnits`, `Text.takeUnits_mono`, `Text.takeUnits_width_append`: what
  `Text.takeUnits` takes.
* `LineOffsets.offset?`, `LineOffsets.upToCaret?`: offset and text of a position, by a walk along
  the line that counts with 32 bits.
* `LineOffsets.offset?_ofText`, `LineOffsets.upToCaret?_ofText`: the walk finds the offset, and no
  cut fails.
* `columns_and_offsets`: columns and offsets of a line.
-/
import LuServer.Proofs.Text.Replaced

namespace LuServer

namespace Text

/-! ## Beginnings of a line by their width -/

/-- The shortest beginning of a line with at least `c` units; the whole line if it has fewer. -/
def Shortest (c : Nat) (line s : Text) : Prop :=
  s <+: line ∧
    if c ≤ line.width then c ≤ s.width ∧ ∀ r : Text, r <+: line → c ≤ r.width → s <+: r else s = line

theorem le_width_takeUnits {n : Nat} {t : Text} (h : n ≤ t.width) : n ≤ (takeUnits n t).width := by
  induction t generalizing n with
  | nil =>
    obtain rfl : n = 0 := Nat.le_zero.mp h
    exact Nat.zero_le _
  | cons c t ih =>
    rcases Nat.eq_zero_or_pos n with rfl | hn
    · exact Nat.zero_le _
    · rw [width_cons] at h
      have htail := ih (n := n - units c) (by omega)
      rw [takeUnits_cons hn, width_cons]
      omega

/-- No shorter beginning has as many units. -/
theorem takeUnits_prefix_of_le {n : Nat} {s t : Text} (hs : s <+: t) (h : n ≤ s.width) :
    takeUnits n t <+: s := by
  induction s generalizing n t with
  | nil =>
    obtain rfl : n = 0 := Nat.le_zero.mp h
    simp [takeUnits_zero]
  | cons c s ih =>
    obtain ⟨rest, rfl⟩ := hs
    rcases Nat.eq_zero_or_pos n with rfl | hn
    · simp [takeUnits_zero]
    · rw [width_cons] at h
      rw [List.cons_append, takeUnits_cons hn, List.cons_prefix_cons]
      exact ⟨rfl, ih (List.prefix_append s rest) (by omega)⟩

theorem shortest_takeUnits (c : Nat) (line : Text) : Shortest c line (takeUnits c line) := by
  have hbegin := takeUnits_prefix c line
  refine ⟨hbegin, ?_⟩
  split
  · next h => exact ⟨le_width_takeUnits h, fun r hr hc => takeUnits_prefix_of_le hr hc⟩
  · next h => exact takeUnits_of_width_le (by omega)

/-- A later column has at least as much before it. -/
theorem takeUnits_mono {c d : Nat} (h : c ≤ d) (t : Text) : takeUnits c t <+: takeUnits d t := by
  by_cases hd : d ≤ t.width
  · have hwide := le_width_takeUnits hd
    have hbegin := takeUnits_prefix d t
    exact takeUnits_prefix_of_le hbegin (by omega)
  · rw [takeUnits_of_width_le (n := d) (by omega)]
    exact takeUnits_prefix c t

/-- A beginning is found again by its width. -/
theorem takeUnits_width_append (s t : Text) : takeUnits s.width (s ++ t) = s := by
  induction s with
  | nil => exact takeUnits_zero t
  | cons c s ih =>
    have hc := units_pos c
    rw [width_cons, List.cons_append, takeUnits_cons (by omega), Nat.add_sub_cancel_left, ih]

theorem byteSize_le_of_prefix {s t : Text} (h : s <+: t) : s.byteSize ≤ t.byteSize := by
  obtain ⟨rest, rfl⟩ := h
  rw [byteSize_append]
  exact Nat.le_add_right _ _

end Text

namespace LineOffsets

/-! ## Walks along a line -/

/-- The offset that a walk from offset `i` on ends at, which stops in front of a character as soon
as it has counted as many units as `column` says. -/
def walk (column counted : UInt32) (i : Nat) : Text → Nat
  | [] => i
  | c :: r =>
    if column ≤ counted then i
    else walk column (counted + UInt32.ofNat (Text.units c)) (i + c.utf8Size) r

/-- The offset of a column of line `n`, if there is such a line and no cut fails. -/
def offset? (x : LineOffsets) (n : Nat) (column : UInt32) : Option (Option Nat) := do
  match ← x.bounds? n with
  | none => return none
  | some (start, stop) => return some (walk column 0 start (← x.source.slice? start stop))

/-- The text of line `n` before a column, empty if there is no such line, if no cut fails. -/
def upToCaret? (x : LineOffsets) (n : Nat) (column : UInt32) : Option Text := do
  match ← x.bounds? n with
  | none => return []
  | some (start, _) =>
    match ← x.offset? n column with
    | none => return []
    | some offset => x.source.slice? start offset

/-- Whatever is counted, a walk stops at the end of a character. -/
theorem exists_walk (column counted : UInt32) (i : Nat) (line : Text) :
    ∃ s : Text, s <+: line ∧ walk column counted i line = i + s.byteSize := by
  induction line generalizing counted i with
  | nil => exact ⟨[], List.nil_prefix, rfl⟩
  | cons c line ih =>
    rw [walk]
    split
    · exact ⟨[], List.nil_prefix, rfl⟩
    · obtain ⟨s, hs, hwalk⟩ := ih (counted + UInt32.ofNat (Text.units c)) (i + c.utf8Size)
      refine ⟨c :: s, List.cons_prefix_cons.mpr ⟨rfl, hs⟩, ?_⟩
      rw [hwalk, Text.byteSize_cons, Nat.add_assoc]

/-- As long as the counter does not run over, a walk goes as far as the column says. -/
theorem walk_eq {column counted : UInt32} {i : Nat} {line : Text}
    (h : counted.toNat + line.width < UInt32.size) :
    walk column counted i line
      = i + (Text.takeUnits (column.toNat - counted.toNat) line).byteSize := by
  induction line generalizing counted i with
  | nil =>
    rw [walk, Text.takeUnits_of_width_le (Nat.zero_le _)]
    rfl
  | cons c line ih =>
    rw [Text.width_cons] at h
    rw [walk]
    split
    · next hle =>
      rw [Nat.sub_eq_zero_of_le (UInt32.le_iff_toNat_le.mp hle), Text.takeUnits_zero]
      rfl
    · next hlt =>
      have hless : counted.toNat < column.toNat := by
        rwa [UInt32.le_iff_toNat_le, Nat.not_le] at hlt
      -- the units of the character are added without loss
      have hnext : (counted + UInt32.ofNat (Text.units c)).toNat
          = counted.toNat + Text.units c := by
        have hsize : UInt32.size = 2 ^ 32 := rfl
        rw [UInt32.toNat_add, UInt32.toNat_ofNat']
        omega
      rw [ih (by omega), hnext, Text.takeUnits_cons (by omega), Text.byteSize_cons,
        Nat.sub_add_eq, Nat.add_assoc]

/-! ## Positions on a line -/

section Line

variable {t : Text} {n : Nat} {before : List Text} {raw : Text} {after : List Text}
  (hraw : t.rawLines = before ++ raw :: after) (hn : before.length = n)

include hraw

/-- The text of a line stands between its offsets, and so does each beginning of it. -/
theorem exists_around_prefix {s : Text} (hs : s <+: Text.dropReturn raw) :
    ∃ rest, t = Text.closedLines before ++ s ++ rest := by
  obtain ⟨rest, hrest⟩ := hs.trans (Text.dropReturn_isPrefix raw)
  refine ⟨rest ++ Text.openedLines after, ?_⟩
  rw [eq_around_raw hraw, ← hrest]
  simp

theorem slice?_of_prefix {s : Text} (hs : s <+: Text.dropReturn raw) :
    t.slice? (Text.closedLines before).byteSize
      ((Text.closedLines before).byteSize + s.byteSize) = some s := by
  obtain ⟨rest, ht⟩ := exists_around_prefix hraw hs
  exact Text.slice?_eq_some.mpr ⟨_, rest, ht, rfl, rfl⟩

/-- Only beginnings of a line stand between its start and a place of it. -/
theorem prefix_of_slice? {s : Text} {o : Nat}
    (ho : o ≤ (Text.closedLines before).byteSize + (Text.dropReturn raw).byteSize)
    (hs : t.slice? (Text.closedLines before).byteSize o = some s) :
    s <+: Text.dropReturn raw ∧ o = (Text.closedLines before).byteSize + s.byteSize := by
  obtain ⟨above, below, ht, hstart, rfl⟩ := Text.slice?_eq_some.mp hs
  obtain ⟨rest, hline⟩ := exists_around_prefix hraw (List.prefix_refl (Text.dropReturn raw))
  rw [ht, List.append_assoc, List.append_assoc] at hline
  obtain ⟨rfl, hrest⟩ := Text.append_inj_of_byteSize hline hstart.symm
  refine ⟨?_, rfl⟩
  exact Text.prefix_of_byteSize_le ⟨below, rfl⟩ ⟨rest, hrest.symm⟩ (by omega)

include hn

theorem offset?_of_raw (column : UInt32) :
    (ofText t).offset? n column
      = some (some (walk column 0 (Text.closedLines before).byteSize (Text.dropReturn raw))) := by
  have hcut : (ofText t).source.slice? (Text.closedLines before).byteSize
      ((Text.closedLines before).byteSize + (Text.dropReturn raw).byteSize)
        = some (Text.dropReturn raw) :=
    slice?_of_prefix hraw (List.prefix_refl _)
  rw [offset?, bounds?_of_raw hraw hn, Option.bind_eq_bind, Option.bind_some]
  dsimp only
  rw [hcut]
  rfl

theorem upToCaret?_of_raw {s : Text} (hs : s <+: Text.dropReturn raw) {column : UInt32}
    (hwalk : walk column 0 (Text.closedLines before).byteSize (Text.dropReturn raw)
      = (Text.closedLines before).byteSize + s.byteSize) :
    (ofText t).upToCaret? n column = some s := by
  rw [upToCaret?, offset?_of_raw hraw hn, bounds?_of_raw hraw hn, hwalk]
  exact slice?_of_prefix hraw hs

end Line

/-- Offset and text of a position are found, however wide the line is. -/
theorem exists_offset?_ofText (t : Text) (n : Nat) (column : UInt32) :
    (∃ o, (ofText t).offset? n column = some o) ∧ ∃ s, (ofText t).upToCaret? n column = some s := by
  rcases Nat.lt_or_ge n t.lineCount with hn | hn
  · obtain ⟨before, raw, after, hraw, hlength⟩ := Text.exists_raw hn
    obtain ⟨s, hs, hwalk⟩ := exists_walk column 0 (Text.closedLines before).byteSize
      (Text.dropReturn raw)
    exact ⟨⟨_, offset?_of_raw hraw hlength column⟩, s, upToCaret?_of_raw hraw hlength hs hwalk⟩
  · rw [offset?, upToCaret?, bounds?_of_lineCount_le hn]
    exact ⟨⟨none, rfl⟩, [], rfl⟩

/-- With 32 bits for the units of a line a walk finds the offset of a position and the text before
it. -/
theorem offset?_ofText {t : Text} {n : Nat} (h : t.lineWidth n < UInt32.size) (column : UInt32) :
    (ofText t).offset? n column = some (t.byteOffset? ⟨n, column.toNat⟩) ∧
      (ofText t).upToCaret? n column = some (t.upToCaret ⟨n, column.toNat⟩) := by
  rcases Nat.lt_or_ge n t.lineCount with hn | hn
  · obtain ⟨before, raw, after, hraw, hlength⟩ := Text.exists_raw hn
    rw [Text.lineWidth, Text.line?_of_raw hraw hlength, Option.getD_some] at h
    have hwalk : walk column 0 (Text.closedLines before).byteSize (Text.dropReturn raw)
        = (Text.closedLines before).byteSize
          + (Text.takeUnits column.toNat (Text.dropReturn raw)).byteSize :=
      walk_eq (by simpa using h)
    have hbegin := Text.takeUnits_prefix column.toNat (Text.dropReturn raw)
    rw [offset?_of_raw hraw hlength, hwalk, upToCaret?_of_raw hraw hlength hbegin hwalk,
      Text.byteOffset?_of_raw hraw hlength, Text.upToCaret_of_raw hraw hlength]
    exact ⟨rfl, rfl⟩
  · have hline := Text.line?_eq_none_iff.mpr hn
    rw [offset?, upToCaret?, bounds?_of_lineCount_le hn, Text.byteOffset?, Text.upToCaret]
    dsimp only
    rw [hline]
    exact ⟨rfl, rfl⟩

end LineOffsets

/-- **Columns and offsets.**  A position has no offset exactly if its line does not exist.  On a
line that stands between two offsets, a column has the offset at which the shortest beginning of
the line with as many units ends, and that beginning is the text before the position; a later
column has no earlier offset, and each place of the line has the offset that its column has.  A
walk that counts units with 32 bits finds the same. -/
theorem columns_and_offsets (t : Text) (n : Nat) (hwidth : t.lineWidth n < UInt32.size) :
    (∀ c, t.byteOffset? ⟨n, c⟩ = none ↔ t.lineCount ≤ n) ∧
    (t.lineCount ≤ n → ∀ c, t.upToCaret ⟨n, c⟩ = []) ∧
    (n < t.lineCount → ∃ start stop line,
      (LineOffsets.ofText t).bounds? n = some (some (start, stop)) ∧
      t.line? n = some line ∧ t.slice? start stop = some line ∧
      (∀ c, ∃ o, t.byteOffset? ⟨n, c⟩ = some o ∧ start ≤ o ∧ o ≤ stop ∧
        t.slice? start o = some (t.upToCaret ⟨n, c⟩) ∧
        Text.Shortest c line (t.upToCaret ⟨n, c⟩)) ∧
      (∀ c d o p, c ≤ d → t.byteOffset? ⟨n, c⟩ = some o → t.byteOffset? ⟨n, d⟩ = some p → o ≤ p) ∧
      ∀ o s, o ≤ stop → t.slice? start o = some s → t.byteOffset? ⟨n, s.width⟩ = some o) ∧
    ∀ column : UInt32,
      (LineOffsets.ofText t).offset? n column = some (t.byteOffset? ⟨n, column.toNat⟩) ∧
      (LineOffsets.ofText t).upToCaret? n column = some (t.upToCaret ⟨n, column.toNat⟩) := by
  refine ⟨?_, ?_, ?_, LineOffsets.offset?_ofText hwidth⟩
  · intro c
    rw [Text.byteOffset?, Option.map_eq_none_iff, Text.line?_eq_none_iff]
  · intro hn c
    rw [Text.upToCaret]
    dsimp only
    rw [Text.line?_eq_none_iff.mpr hn]
  · intro hn
    obtain ⟨before, raw, after, hraw, hlength⟩ := Text.exists_raw hn
    have hoffset := Text.byteOffset?_of_raw hraw hlength
    refine ⟨_, _, _, LineOffsets.bounds?_of_raw hraw hlength, Text.line?_of_raw hraw hlength,
      LineOffsets.slice?_of_prefix hraw (List.prefix_refl _), ?_, ?_, ?_⟩
    · intro c
      have hbegin := Text.takeUnits_prefix c (Text.dropReturn raw)
      rw [hoffset, Text.upToCaret_of_raw hraw hlength]
      exact ⟨_, rfl, Nat.le_add_right _ _,
        Nat.add_le_add_left (Text.byteSize_le_of_prefix hbegin) _,
        LineOffsets.slice?_of_prefix hraw hbegin, Text.shortest_takeUnits c _⟩
    · intro c d o p hcd ho hp
      rw [hoffset] at ho hp
      obtain rfl := Option.some.inj ho
      obtain rfl := Option.some.inj hp
      exact Nat.add_le_add_left (Text.byteSize_le_of_prefix (Text.takeUnits_mono hcd _)) _
    · intro o s ho hs
      obtain ⟨⟨rest, hrest⟩, rfl⟩ := LineOffsets.prefix_of_slice? hraw ho hs
      rw [hoffset, ← hrest, Text.takeUnits_width_append]

/-- A character of four bytes and two units: the column inside of it and the one after it have
the same offset, and columns past the end have that of the end, before the carriage return. -/
theorem columns_and_offsets_pair :
    let text : Text := "c\n- a😀b\r\nd".toList
    text.lineWidth 1 < UInt32.size ∧ text.slice? 2 9 = some "- a😀".toList ∧
      text.byteOffset? ⟨1, 5⟩ = some 9 ∧
      (LineOffsets.ofText text).offset? 1 4 = some (some 9) ∧
      (LineOffsets.ofText text).upToCaret? 1 4 = some "- a😀".toList ∧
      ∀ c p, 5 ≤ c → text.byteOffset? ⟨1, c⟩ = some p → 9 ≤ p ∧ p ≤ 10 := by
  intro text
  have hwidth : text.lineWidth 1 < UInt32.size := by decide
  have hcut : text.slice? 2 9 = some "- a😀".toList := by decide
  obtain ⟨-, -, hline, hwalk⟩ := columns_and_offsets text 1 hwidth
  obtain ⟨start, stop, line, hbounds, -, -, hplace, hmono, hback⟩ := hline (by decide)
  obtain ⟨rfl, rfl⟩ : 2 = start ∧ 10 = stop := by
    have hvalue : (LineOffsets.ofText text).bounds? 1 = some (some (2, 10)) := by decide
    simpa [hvalue] using hbounds
  have hoffset : text.byteOffset? ⟨1, 5⟩ = some 9 := hback 9 _ (by decide) hcut
  refine ⟨hwidth, hcut, hoffset, (hwalk 4).1.trans (by decide), (hwalk 4).2.trans (by decide), ?_⟩
  intro c p hc hp
  obtain ⟨o, ho, -, hstop, -⟩ := hplace c
  obtain rfl := Option.some.inj (ho.symm.trans hp)
  exact ⟨hmono 5 c 9 o hc hoffset ho, hstop⟩

end LuServer
