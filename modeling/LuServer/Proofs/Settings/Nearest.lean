/-
# The nearest settings file

Settings are looked for in a directory, in the one above it, and so on up to the root, and only
then in the directories directly below it.  So the nearest file upwards counts, even if nothing
can be read from it; a directory with the name of the file does not count.  What a file says is
left to `decode`, which stands for any decoder; that of the server is `Settings.decode?`.

* `Settings.Holds`: a directory has a settings file with certain bytes.
* `Settings.holds_iff_of_plain`: what that means for a path without detours.
* `Settings.Below`: the directories directly below a directory.
* `Settings.find?_ancestors_eq_some`: a search upwards finds the nearest.
* `Settings.Due`: the settings that are due in a directory.
* `Settings.nearest_file_discovered`: what is discovered is what is due.
-/
import LuServer.Settings
import Mathlib.Data.List.Induction
import Mathlib.Data.List.Infix

namespace LuServer

/-! ## Looking up paths -/

namespace Path

/-- A name that leads down, and that can be looked up. -/
structure IsPlain (name : FileName) : Prop where
  ne_nil : name ≠ []
  ne_here : name ≠ here
  ne_up : name ≠ up
  length : name.length ≤ longestName
  zero : 0 ∉ name

end Path

namespace FileTree

variable {t : FileTree}

/-- An empty name stays. -/
theorem resolve_nil_cons {here p : Path} {rest : List FileName} :
    t.resolve here ([] :: rest) = .ok p ↔
      t.entry? here = some .directory ∧ t.resolve here rest = .ok p := by
  by_cases hhere : t.entry? here = some .directory <;> simp [resolve, hhere]

/-- A plain name is looked for in a directory. -/
theorem resolve_cons_of_plain {name : FileName} (h : Path.IsPlain name) (here : Path)
    (rest : List FileName) {p : Path} :
    t.resolve here (name :: rest) = .ok p ↔
      t.entry? here = some .directory ∧ (t.entry? (here ++ [name])).isSome = true ∧
        t.resolve (here ++ [name]) rest = .ok p := by
  rw [resolve, if_neg (not_or.mpr ⟨h.ne_nil, h.ne_here⟩), if_neg h.ne_up,
    if_neg (Nat.not_lt.mpr h.length)]
  by_cases hhere : t.entry? here = some .directory
  · by_cases hname : (t.entry? (here ++ [name])).isSome = true <;> simp [hhere, hname]
  · simp [hhere]

/-- Plain names lead from directory to directory. -/
theorem resolve_eq_ok_iff {name : FileName} (hname : Path.IsPlain name) {dir : List FileName}
    (hdir : ∀ step ∈ dir, Path.IsPlain step) {here p : Path} :
    t.resolve here (dir ++ [name]) = .ok p ↔
      p = here ++ dir ++ [name] ∧ (∀ d, d <+: dir → t.entry? (here ++ d) = some .directory) ∧
        (t.entry? (here ++ dir ++ [name])).isSome = true := by
  induction dir generalizing here with
  | nil =>
    rw [List.nil_append, resolve_cons_of_plain hname, resolve]
    simp only [List.prefix_nil, forall_eq, List.append_nil, Except.ok.injEq]
    exact ⟨fun ⟨hhere, hsome, hp⟩ => ⟨hp.symm, hhere, hsome⟩,
      fun ⟨hp, hhere, hsome⟩ => ⟨hhere, hsome, hp.symm⟩⟩
  | cons step dir ih =>
    have hstep := hdir step List.mem_cons_self
    rw [List.cons_append, resolve_cons_of_plain hstep,
      ih fun s hs => hdir s (List.mem_cons_of_mem _ hs)]
    simp only [List.append_assoc, List.cons_append, List.nil_append]
    constructor
    · rintro ⟨hhere, -, rfl, hall, hsome⟩
      refine ⟨rfl, fun d hd => ?_, hsome⟩
      rcases List.prefix_cons_iff.mp hd with rfl | ⟨d, rfl, hd'⟩
      · simpa using hhere
      · exact hall d hd'
    · rintro ⟨rfl, hall, hsome⟩
      refine ⟨by simpa using hall [] List.nil_prefix, ?_, rfl, fun d hd => ?_, hsome⟩
      · rw [hall [step] ((List.prefix_cons_inj step).mpr List.nil_prefix)]
        rfl
      · exact hall (step :: d) ((List.prefix_cons_inj step).mpr hd)

/-- What is at a path is an entry or has one below. -/
theorem exists_entry_of_entry? {p : Path} {e : FileEntry} (h : t.entry? p = some e) :
    p = [] ∨ ∃ entry ∈ t.entries, p <+: entry.1 := by
  unfold entry? at h
  cases hlookup : t.entries.lookup p with
  | some found =>
    obtain ⟨before, after, hentries, -⟩ := List.lookup_eq_some_iff.mp hlookup
    exact .inr ⟨(p, found), by simp [hentries], List.prefix_rfl⟩
  | none =>
    rw [hlookup] at h
    simpa using (Option.ite_none_right_eq_some.mp h).1

theorem mem_children {dir : Path} {name : FileName} :
    name ∈ t.children dir ↔ ∃ entry ∈ t.entries, dir ++ [name] <+: entry.1 := by
  rw [children, mem_appendNew, List.mem_filterMap]
  simp only [List.not_mem_nil, false_or]
  refine exists_congr fun entry => and_congr_right fun _ => ?_
  constructor
  · intro h
    obtain ⟨hdir, hname⟩ := Option.ite_none_right_eq_some.mp h
    obtain ⟨rest, hrest⟩ := List.isPrefixOf_iff_prefix.mp hdir
    rw [← hrest, List.getElem?_append_right (Nat.le_refl _), Nat.sub_self] at hname
    obtain ⟨name', rest', rfl⟩ := List.exists_cons_of_ne_nil (l := rest) (by rintro rfl; simp at hname)
    obtain rfl := Option.some.inj hname
    exact ⟨rest', by rw [← hrest]; simp⟩
  · rintro ⟨rest, hrest⟩
    rw [← hrest]
    simp

theorem mem_subdirectories {dir q : Path} :
    q ∈ t.subdirectories dir ↔
      ∃ name, q = dir ++ [name] ∧ t.entry? (dir ++ [name]) = some .directory := by
  rw [subdirectories, List.mem_filter, List.mem_map]
  constructor
  · rintro ⟨⟨name, -, rfl⟩, h⟩
    exact ⟨name, rfl, by simpa using h⟩
  · rintro ⟨name, rfl, h⟩
    refine ⟨⟨name, ?_, rfl⟩, by simpa using h⟩
    rcases exists_entry_of_entry? h with hnil | hentry
    · simp at hnil
    · exact mem_children.mpr hentry

end FileTree

namespace Settings

variable {decode : Text → Option Settings} {tree : FileTree}

/-! ## Settings files -/

/-- A regular file with these bytes is found where the settings file of a directory is looked
for. -/
def Holds (tree : FileTree) (dir : Path) (bytes : List UInt8) : Prop :=
  ∃ p, tree.locate (filePath dir) = .ok p ∧ tree.entry? p = some (.file bytes)

/-- A directory that is listed in `start`. -/
def Below (tree : FileTree) (start dir : Path) : Prop :=
  ∃ p name, tree.locate (Path.fromRoot start) = .ok p ∧
    tree.entry? (p ++ [name]) = some .directory ∧ dir = start ++ [name]

/-- A directory has a settings file. -/
def HasFile (tree : FileTree) (dir : Path) : Prop :=
  ∃ bytes, Holds tree dir bytes

/-- A directory is found by its settings file. -/
theorem isIn_iff {dir : Path} : isIn tree dir = true ↔ HasFile tree dir := by
  unfold isIn HasFile Holds
  cases tree.locate (filePath dir) with
  | error fault => simp
  | ok p =>
    dsimp only
    rw [FileTree.isFile]
    cases hentry : tree.entry? p with
    | none => simp [hentry]
    | some e => cases e <;> simp [hentry]

theorem mem_below {start dir : Path} : dir ∈ below tree start ↔ Below tree start dir := by
  unfold below Below
  cases tree.locate (Path.fromRoot start) with
  | error fault => simp
  | ok p =>
    dsimp only
    rw [List.mem_map]
    constructor
    · rintro ⟨q, hq, rfl⟩
      obtain ⟨name, rfl, hdir⟩ := FileTree.mem_subdirectories.mp hq
      exact ⟨p, name, rfl, hdir, by rw [List.drop_left]⟩
    · rintro ⟨p', name, hp, hdir, rfl⟩
      obtain rfl := Except.ok.inj hp
      exact ⟨p ++ [name], FileTree.mem_subdirectories.mpr ⟨name, rfl, hdir⟩, by rw [List.drop_left]⟩

/-- Where at most one directory is listed, there is only one directly below. -/
theorem Below.unique {start dir dir' : Path} (hone : (Settings.below tree start).length ≤ 1)
    (h : Below tree start dir) (h' : Below tree start dir') : dir = dir' := by
  rw [← mem_below] at h h'
  obtain ⟨n, hn, rfl⟩ := List.getElem_of_mem h
  obtain ⟨n', hn', rfl⟩ := List.getElem_of_mem h'
  congr 1
  omega

/-- What a settings file says: nothing if it is no text or not usable. -/
theorem loadWith_of_holds {dir : Path} {bytes : List UInt8} (h : Holds tree dir bytes) :
    loadWith decode tree (filePath dir) = ((Text.ofBytes? bytes).bind decode).getD standard := by
  obtain ⟨p, hp, hentry⟩ := h
  unfold loadWith FileTree.readText
  rw [hp]
  simp only [bind, Except.bind, hentry]
  cases Text.ofBytes? bytes with
  | none => rfl
  | some text => rfl

/-- A directory with the name of a settings file is none. -/
theorem not_hasFile_of_directory {dir p : Path} (hp : tree.locate (filePath dir) = .ok p)
    (h : tree.entry? p = some .directory) : ¬ HasFile tree dir := by
  rintro ⟨bytes, q, hq, hentry⟩
  obtain rfl := Except.ok.inj (hp.symm.trans hq)
  exact absurd (h.symm.trans hentry) (by simp)

theorem isPlain_fileName : Path.IsPlain fileName where
  ne_nil := by decide
  ne_here := by decide
  ne_up := by decide
  length := by decide
  zero := by decide

/-- Without detours, a settings file is an entry right in its directory, and all that lies above
is a directory too. -/
theorem holds_iff_of_plain {dir : Path} {bytes : List UInt8} (hdir : ∀ step ∈ dir, Path.IsPlain step)
    (hsize : Path.size (filePath dir) < Path.sizeLimit) :
    Holds tree dir bytes ↔
      (∀ d, d <+: dir → tree.entry? d = some .directory) ∧
        tree.entry? (dir ++ [fileName]) = some (.file bytes) := by
  have hzero : (filePath dir).any (·.contains 0) = false := by
    rw [List.any_eq_false]
    intro step hstep
    simp only [filePath, Path.fromRoot, List.mem_cons, List.mem_append, List.not_mem_nil,
      or_false] at hstep
    rcases hstep with rfl | hstep | rfl
    · simp
    · simpa using (hdir step hstep).zero
    · simpa using isPlain_fileName.zero
  have hlocate : ∀ p, tree.locate (filePath dir) = .ok p ↔ p = dir ++ [fileName] ∧
      (∀ d, d <+: dir → tree.entry? d = some .directory) ∧
        (tree.entry? (dir ++ [fileName])).isSome = true := by
    intro p
    rw [FileTree.locate, hzero, if_neg Bool.false_ne_true, if_neg (Nat.not_le.mpr hsize), filePath,
      Path.fromRoot, FileTree.resolve_nil_cons, FileTree.resolve_eq_ok_iff isPlain_fileName hdir]
    simp only [List.nil_append]
    exact ⟨And.right, fun h => ⟨h.2.1 [] List.nil_prefix, h⟩⟩
  unfold Holds
  constructor
  · rintro ⟨p, hp, hentry⟩
    obtain ⟨rfl, hall, -⟩ := (hlocate p).mp hp
    exact ⟨hall, hentry⟩
  · rintro ⟨hall, hentry⟩
    exact ⟨_, (hlocate _).mpr ⟨rfl, hall, by rw [hentry]; rfl⟩, hentry⟩

/-! ## The way up -/

theorem ancestors_nil : ancestors [] = [[]] := rfl

/-- The directory itself comes first, and then those of the directory above. -/
theorem ancestors_concat (dir : Path) (name : FileName) :
    ancestors (dir ++ [name]) = (dir ++ [name]) :: ancestors dir := by
  unfold ancestors
  rw [List.length_append, List.length_singleton, List.range_succ_eq_map, List.map_cons,
    List.map_map, Nat.sub_zero, List.take_of_length_le (by simp)]
  congr 1
  refine List.map_congr_left fun n _ => ?_
  rw [Function.comp_apply, Nat.succ_sub_succ, List.take_append_of_le_length (Nat.sub_le _ _)]

theorem mem_ancestors {start dir : Path} : dir ∈ ancestors start ↔ dir <+: start := by
  induction start using List.reverseRecOn with
  | nil => simp [ancestors_nil]
  | append_singleton start name ih =>
    rw [ancestors_concat, List.mem_cons, ih, List.prefix_concat_iff]

/-- A search upwards ends at the nearest directory that is looked for. -/
theorem find?_ancestors_eq_some {p : Path → Bool} {start dir : Path} :
    (ancestors start).find? p = some dir ↔
      dir <+: start ∧ p dir = true ∧
        ∀ above, above <+: start → p above = true → above.length ≤ dir.length := by
  induction start using List.reverseRecOn with
  | nil =>
    simp only [ancestors_nil, List.find?_singleton, Option.ite_none_right_eq_some,
      Option.some.injEq, List.prefix_nil]
    constructor
    · rintro ⟨hp, rfl⟩
      exact ⟨rfl, hp, fun above h _ => by rw [h]⟩
    · rintro ⟨rfl, hp, -⟩
      exact ⟨hp, rfl⟩
  | append_singleton start name ih =>
    rw [ancestors_concat, List.find?_cons]
    cases hname : p (start ++ [name]) with
    | true =>
      simp only [Option.some.injEq]
      constructor
      · rintro rfl
        exact ⟨List.prefix_rfl, hname, fun above h _ => h.length_le⟩
      · rintro ⟨hdir, -, hnearest⟩
        exact (hdir.eq_of_length_le (hnearest _ List.prefix_rfl hname)).symm
    | false =>
      simp only [ih, List.prefix_concat_iff]
      constructor
      · rintro ⟨hdir, hp, hnearest⟩
        refine ⟨.inr hdir, hp, ?_⟩
        rintro above (rfl | habove) hp'
        · simp [hname] at hp'
        · exact hnearest above habove hp'
      · rintro ⟨rfl | hdir, hp, hnearest⟩
        · simp [hname] at hp
        · exact ⟨hdir, hp, fun above h hp' => hnearest above (.inr h) hp'⟩

/-! ## The settings for a directory -/

/-- The settings that are due in a directory `start`, and the directory that they are from. -/
inductive Due (decode : Text → Option Settings) (tree : FileTree) (start : Path) :
    Settings × Path → Prop where
  /-- The nearest settings file upwards. -/
  | upwards {dir : Path} : dir <+: start → HasFile tree dir →
      (∀ above, above <+: start → HasFile tree above → above.length ≤ dir.length) →
      Due decode tree start (loadWith decode tree (filePath dir), dir)
  /-- A settings file directly below, if there is none upwards. -/
  | below {dir : Path} : (∀ above, above <+: start → ¬ HasFile tree above) → Below tree start dir →
      HasFile tree dir → Due decode tree start (loadWith decode tree (filePath dir), dir)
  /-- The standard settings, if there is none at all. -/
  | standard : (∀ above, above <+: start → ¬ HasFile tree above) →
      (∀ dir, Below tree start dir → ¬ HasFile tree dir) → Due decode tree start (standard, start)

theorem find?_ancestors_isIn {start dir : Path} :
    (ancestors start).find? (isIn tree) = some dir ↔
      dir <+: start ∧ HasFile tree dir ∧
        ∀ above, above <+: start → HasFile tree above → above.length ≤ dir.length := by
  simp only [find?_ancestors_eq_some, isIn_iff]

theorem find?_ancestors_isIn_eq_none {start : Path} :
    (ancestors start).find? (isIn tree) = none ↔ ∀ above, above <+: start → ¬ HasFile tree above := by
  simp only [List.find?_eq_none, mem_ancestors, isIn_iff]

/-- A search upwards finds what is due. -/
theorem Due.of_find?_ancestors {start dir : Path}
    (h : (ancestors start).find? (isIn tree) = some dir) :
    Due decode tree start (loadWith decode tree (filePath dir), dir) := by
  obtain ⟨hdir, hfile, hnearest⟩ := find?_ancestors_isIn.mp h
  exact .upwards hdir hfile hnearest

/-- What is discovered is due. -/
theorem due_discoverWith (start : Path) :
    Due decode tree start (discoverWith decode tree start) := by
  unfold discoverWith
  rw [List.find?_append]
  cases hup : (ancestors start).find? (isIn tree) with
  | some dir => exact .of_find?_ancestors hup
  | none =>
    have hnone := find?_ancestors_isIn_eq_none.mp hup
    rw [Option.none_or]
    cases hdown : (Settings.below tree start).find? (isIn tree) with
    | some dir =>
      exact .below hnone (mem_below.mp (List.mem_of_find?_eq_some hdown))
        (isIn_iff.mp (List.find?_some hdown))
    | none =>
      refine .standard hnone fun dir hdir => ?_
      exact mt isIn_iff.mpr (List.find?_eq_none.mp hdown dir (mem_below.mpr hdir))

/-- Only one thing is due, if at most one directory directly below has a settings file. -/
theorem Due.unique {start : Path} {found found' : Settings × Path}
    (hone : ∀ dir dir', Below tree start dir → HasFile tree dir → Below tree start dir' →
      HasFile tree dir' → dir = dir')
    (h : Due decode tree start found) (h' : Due decode tree start found') : found = found' := by
  cases h with
  | upwards hdir hfile hnearest =>
    cases h' with
    | upwards hdir' hfile' hnearest' =>
      have hlength := Nat.le_antisymm (hnearest' _ hdir hfile) (hnearest _ hdir' hfile')
      rw [(List.prefix_of_prefix_length_le hdir hdir' hlength.le).eq_of_length hlength]
    | below hnone => exact absurd hfile (hnone _ hdir)
    | standard hnone => exact absurd hfile (hnone _ hdir)
  | below hnone hbelow hfile =>
    cases h' with
    | upwards hdir' hfile' => exact absurd hfile' (hnone _ hdir')
    | below _ hbelow' hfile' => rw [hone _ _ hbelow hfile hbelow' hfile']
    | standard _ hnone' => exact absurd hfile (hnone' _ hbelow)
  | standard hnone hnone' =>
    cases h' with
    | upwards hdir' hfile' => exact absurd hfile' (hnone _ hdir')
    | below _ hbelow' hfile' => exact absurd hfile' (hnone' _ hbelow')
    | standard => rfl

/-- Where the settings for a directory come from, whatever there is at its path and whatever
decodes the files: from the nearest settings file upwards, else from the one directly below, else
from nowhere.  A file that is no text, or not usable, says nothing, but hides the others; a
directory is not a settings file. -/
theorem nearest_file_discovered (decode : Text → Option Settings) (tree : FileTree) (start : Path)
    (hone : ∀ dir dir', Below tree start dir → HasFile tree dir → Below tree start dir' →
      HasFile tree dir' → dir = dir') :
    (∀ found, discoverWith decode tree start = found ↔ Due decode tree start found) ∧
      (∀ dir bytes, Holds tree dir bytes →
        loadWith decode tree (filePath dir) = ((Text.ofBytes? bytes).bind decode).getD standard) ∧
      (∀ dir p, tree.locate (filePath dir) = .ok p → tree.entry? p = some .directory →
        ¬ HasFile tree dir) ∧
      ∀ dir bytes, (∀ step ∈ dir, Path.IsPlain step) →
        Path.size (filePath dir) < Path.sizeLimit →
        (Holds tree dir bytes ↔ (∀ d, d <+: dir → tree.entry? d = some .directory) ∧
          tree.entry? (dir ++ [fileName]) = some (.file bytes)) := by
  refine ⟨fun found => ⟨?_, fun h => (due_discoverWith start).unique hone h⟩,
    fun dir bytes => loadWith_of_holds, fun dir p => not_hasFile_of_directory,
    fun dir bytes => holds_iff_of_plain⟩
  rintro rfl
  exact due_discoverWith start

/-- The file at the root gives its culture and its quiet time to a directory that is not there.
Under `w` a broken file hides it, and what is nearer is a directory.  Without a file upwards, the
one directly below gives its quiet time. -/
theorem nearest_file_discovered_read :
    let tree : FileTree :=
      ⟨[([fileName], .file (Text.toBytes "locale = \"de-de\"\nvalidation.debounce_ms = 50".toList)),
        ([[0x77], fileName], .file (Text.toBytes "locale = [".toList)),
        ([[0x77], [0x78], fileName], .directory)]⟩
    let tree' : FileTree :=
      ⟨[([[0x77], fileName], .file (Text.toBytes "validation.debounce_ms = 75".toList))]⟩
    discover tree [[0x76]] = (⟨"de-de".toList, 50⟩, []) ∧
      discover tree [[0x77], [0x78], [0x79]] = (standard, [[0x77]]) ∧
      discover tree' [] = (⟨"en-us".toList, 75⟩, [[0x77]]) := by
  intro tree tree'
  refine ⟨?root, ?broken, ?below⟩
  case root =>
    have hload : loadWith decode? tree (filePath []) = ⟨"de-de".toList, 50⟩ := by decide +kernel
    obtain ⟨hdue, -⟩ := nearest_file_discovered decode? tree [[0x76]]
      fun _ _ hdir _ hdir' _ => hdir.unique (by decide +kernel) hdir'
    exact (hdue _).mpr (hload ▸ .of_find?_ancestors (by decide +kernel))
  case broken =>
    have hload : loadWith decode? tree (filePath [[0x77]]) = standard := by decide +kernel
    obtain ⟨hdue, -⟩ := nearest_file_discovered decode? tree [[0x77], [0x78], [0x79]]
      fun _ _ hdir _ hdir' _ => hdir.unique (by decide +kernel) hdir'
    exact (hdue _).mpr (hload ▸ .of_find?_ancestors (by decide +kernel))
  case below =>
    have hnone : (ancestors []).find? (isIn tree') = none := by decide +kernel
    have hbelow : [[0x77]] ∈ Settings.below tree' [] := by decide +kernel
    have hfile : isIn tree' [[0x77]] = true := by decide +kernel
    have hload : loadWith decode? tree' (filePath [[0x77]]) = ⟨"en-us".toList, 75⟩ := by
      decide +kernel
    obtain ⟨hdue, -⟩ := nearest_file_discovered decode? tree' []
      fun _ _ hdir _ hdir' _ => hdir.unique (by decide +kernel) hdir'
    exact (hdue _).mpr (hload ▸ .below (find?_ancestors_isIn_eq_none.mp hnone)
      (mem_below.mp hbelow) (isIn_iff.mp hfile))

end Settings

end LuServer
