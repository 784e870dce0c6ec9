/-
# Modifiers as they are written

Clauses that are written down, each a keyword with a list of names, are found again: names do not
run into one another, no clause ends early, and no keyword is seen where none is meant, as long as
no name has one of its own.

* `Modifiers.Spells`: the spellings of the keywords.
* `Modifiers.keyword?_append`: whether a keyword starts a text does not depend on what follows the
  end of a word.
* `Modifiers.Listed`, `Modifiers.listing`: names that a clause can list, and how it lists them.
* `Modifiers.written`: clauses as they are written.
* `Modifiers.clauses_written`: they are the clauses that are found.
* `Modifiers.read_written`: what is read from them.
-/
import LuServer.Proofs.Grammar.Sliced
import LuServer.Proofs.Text.Word

namespace LuServer

namespace Text

/-! ## Lists -/

/-- The entries of a list are found one by one. -/
theorem items_append_comma {s : Text} (hs : ',' ∉ s) (t : Text) :
    items (s ++ ',' :: t) = items s ++ items t := by
  have hfirst : (s ++ ',' :: t).splitOn ',' = s :: t.splitOn ',' := by
    refine List.splitOnP_append_cons_of_forall_mem ?_ _ (by simp) t
    intro c hc
    rw [beq_eq_false_iff_ne]
    rintro rfl
    exact hs hc
  rw [items, items, items, hfirst, List.splitOn_eq_singleton hs, List.map_cons, List.map_cons,
    List.map_nil, ← List.singleton_append, List.filter_append]

end Text

namespace Name

/-! ## Names -/

theorem isBlank_of_isNameChar {c : Char} (h : isNameChar c = true) : Text.isBlank c = false := by
  rw [isNameChar, Bool.or_eq_true] at h
  rcases h with h | h
  · exact Text.isBlank_of_isDotted h
  · rw [beq_iff_eq] at h
    subst h
    decide

theorem tight_of_isValid {t : Text} (h : isValid t = true) : t.Tight := by
  rw [isValid, Bool.and_eq_true, Bool.and_eq_true, Option.any_eq_true, Option.any_eq_true] at h
  obtain ⟨⟨-, ⟨c, hc, hname⟩⟩, ⟨e, he, hname'⟩⟩ := h
  exact ⟨⟨c, hc, isBlank_of_isNameChar hname⟩, e, he, isBlank_of_isNameChar hname'⟩

/-- A sign that is neither blank nor a character of names is in no name. -/
theorem not_mem_of_isValid {t : Text} (h : isValid t = true) {c : Char}
    (hc : (isNameChar c || Text.isBlank c) = false) : c ∉ t := by
  rw [isValid, Bool.and_eq_true, Bool.and_eq_true] at h
  intro hmem
  rw [List.all_eq_true.mp h.1.1 c hmem] at hc
  cases hc

/-- Blanks are all that a name has to be freed of. -/
theorem unquote_of_isValid {t : Text} (h : isValid t = true) {as bs : Text}
    (has : ∀ a ∈ as, Text.isBlank a = true) (hbs : ∀ b ∈ bs, Text.isBlank b = true) :
    Text.unquote (as ++ (t ++ bs)) = t := by
  have hquote : ∀ c ∈ t, (c == '"') = false := by
    intro c hc
    rw [beq_eq_false_iff_ne]
    rintro rfl
    exact not_mem_of_isValid h (by decide) hc
  rw [Text.unquote, Text.trim_blanks_append has, Text.trim_append_blanks hbs,
    (tight_of_isValid h).trim, Text.trimQuotes, Text.dropWhile_of_not hquote,
    Text.dropWhileEnd_of_not hquote, (tight_of_isValid h).trim]

end Name

namespace Modifiers

/-! ## Keywords -/

/-- A word is a keyword for roles, or for features, in letters of any case. -/
inductive Spells : Text → Bool → Prop
  | roles {w : Text} (h : w.asciiLower ∈ ["hasrole".toList, "hasroles".toList]) : Spells w true
  | features {w : Text} (h : w.asciiLower ∈ ["usesfeature".toList, "usesfeatures".toList]) :
    Spells w false

theorem isRoleWord_of_spells {w : Text} {forRoles : Bool} (h : Spells w forRoles) :
    isRoleWord w = forRoles := by
  cases h with
  | roles h =>
    simp only [List.mem_cons, List.not_mem_nil, or_false] at h
    rcases h with h | h <;> rw [isRoleWord, h] <;> decide
  | features h =>
    simp only [List.mem_cons, List.not_mem_nil, or_false] at h
    rcases h with h | h <;> rw [isRoleWord, h] <;> decide

/-- A word can end where a sign or nothing follows, so after its end only what stands in front
matters. -/
theorem wordEnds_append {v : Text} (hv : wordEnds v = true) (t : Text) :
    wordEnds (t ++ v) = wordEnds t := by
  cases t with
  | nil => exact hv
  | cons c t => rfl

/-- What follows the end of a word has no say in whether a keyword starts in front of it. -/
theorem keyword?_append {v : Text} (hv : wordEnds v = true) (t : Text) :
    keyword? (t ++ v) = keyword? t := by
  refine Option.ext fun w => ?_
  rw [keyword?_eq_some_iff, keyword?_eq_some_iff]
  constructor
  · rintro ⟨k, r, hparts, hends, hw⟩
    rcases List.append_eq_append_iff.mp hparts with ⟨u, rfl, rfl⟩ | ⟨u, rfl, rfl⟩
    · -- a keyword that reached into `v` would go on behind the end of the word
      cases u with
      | nil => exact ⟨k, [], by simp, rfl, hw⟩
      | cons c u =>
        have hc : Text.isWord c = true := hw.isWord c (by simp)
        simp [wordEnds, hc] at hv
    · rw [wordEnds_append hv] at hends
      exact ⟨k, u, rfl, hends, hw⟩
  · rintro ⟨k, r, rfl, hends, hw⟩
    exact ⟨k, r ++ v, by simp, by rwa [wordEnds_append hv], hw⟩

theorem wordEnds_cons {c : Char} (hc : Text.isWord c = false) (t : Text) :
    wordEnds (c :: t) = true := by
  rw [wordEnds, hc]
  rfl

theorem keyword?_of_wordEnds {v : Text} (hv : wordEnds v = true) : keyword? v = none :=
  keyword?_append hv []

/-- A word in letters of any case is a spelling of its lower case. -/
theorem spelling_asciiLower {w : Text} (h : ∀ a ∈ w.asciiLower, a.isLower = true) :
    Spelling w.asciiLower w := by
  rw [Text.asciiLower, Spelling, List.forall₂_map_left_iff, List.forall₂_same]
  intro c hc
  rw [mem_letterForms_iff (h _ (List.mem_map_of_mem hc))]
  simp [sameLetter]

theorem exists_matches_of_spells {w : Text} {forRoles : Bool} (h : Spells w forRoles) :
    ∃ k : Keyword, k.Matches w := by
  have hspelling {p : Text} (hw : w.asciiLower = p) (hp : (p.all Char.isLower) = true) :
      Spelling p w := by
    subst hw
    exact spelling_asciiLower (List.all_eq_true.mp hp)
  cases h with
  | roles h =>
    simp only [List.mem_cons, List.not_mem_nil, or_false] at h
    exact ⟨.hasRole, h.imp (hspelling · (by decide)) (hspelling · (by decide))⟩
  | features h =>
    simp only [List.mem_cons, List.not_mem_nil, or_false] at h
    exact ⟨.usesFeature, h.imp (hspelling · (by decide)) (hspelling · (by decide))⟩

/-- A keyword is a word. -/
theorem isWord_of_spells {w : Text} {forRoles : Bool} (h : Spells w forRoles) :
    w ≠ [] ∧ ∀ c ∈ w, Text.isWord c = true := by
  obtain ⟨k, hk⟩ := exists_matches_of_spells h
  exact ⟨hk.ne_nil, hk.isWord⟩

theorem tight_of_spells {w : Text} {forRoles : Bool} (h : Spells w forRoles) : w.Tight := by
  obtain ⟨hne, hword⟩ := isWord_of_spells h
  refine Text.tight_of_not_blank hne ?_
  intro c hc
  refine Name.isBlank_of_isNameChar ?_
  rw [Name.isNameChar, hword c hc]
  rfl

/-! ## Clauses of a text in parts -/

theorem clauses_sign {c : Char} (hc : Text.isWord c = false) (inWord : Bool) (t : Text) :
    clauses inWord (c :: t) = (c :: (clauses false t).1, (clauses false t).2) := by
  have hnone : keyword? (c :: t) = none := keyword?_of_wordEnds (wordEnds_cons hc t)
  rw [clauses, hc, hnone, ite_self]

theorem clauses_of_wordEnds {v : Text} (hv : wordEnds v = true) (inWord : Bool) :
    clauses inWord v = clauses false v := by
  cases v with
  | nil => rfl
  | cons c v =>
    have hc : Text.isWord c = false := by simpa [wordEnds] using hv
    rw [clauses_sign hc, clauses_sign hc]

/-- No keyword starts inside a word. -/
theorem clauses_word {w : Text} (hw : ∀ c ∈ w, Text.isWord c = true) :
    (clauses true w).2 = [] := by
  induction w with
  | nil => rfl
  | cons c w ih =>
    obtain ⟨hc, hw⟩ := List.forall_mem_cons.mp hw
    rw [clauses, hc]
    exact ih hw

/-- A text without keywords is passed over, up to the end of a word. -/
theorem clauses_append {v : Text} (hv : wordEnds v = true) {t : Text} {inWord : Bool}
    (ht : (clauses inWord t).2 = []) :
    clauses inWord (t ++ v) = (t ++ (clauses false v).1, (clauses false v).2) := by
  induction t generalizing inWord with
  | nil => exact clauses_of_wordEnds hv inWord
  | cons c t ih =>
    rw [clauses] at ht
    rw [List.cons_append, clauses, ← List.cons_append, keyword?_append hv]
    cases hkey : if inWord then none else keyword? (c :: t) with
    | none =>
      simp only [hkey] at ht
      simp only [ih ht, List.cons_append]
    | some w =>
      simp only [hkey] at ht
      cases ht

/-- A keyword is found in front of a text in which a word can end. -/
theorem clauses_of_matches {k : Keyword} {w : Text} (hw : k.Matches w) {v : Text}
    (hv : wordEnds v = true) :
    clauses false (w ++ v) = ([], ⟨w, (clauses false v).1⟩ :: (clauses false v).2) := by
  obtain ⟨c, u, rfl⟩ := List.exists_cons_of_ne_nil hw.ne_nil
  obtain ⟨hc, hu⟩ := List.forall_mem_cons.mp hw.isWord
  rw [List.cons_append, clauses, hc, clauses_append hv (clauses_word hu), ← List.cons_append,
    keyword?_append hv, keyword?_of_matches hw]
  simp

/-! ## Names in a clause -/

/-- A name that a clause on one line can list. -/
def Listed (name : Text) : Prop :=
  Name.isValid name = true ∧ '\n' ∉ name ∧ occursIn name = false

instance (name : Text) : Decidable (Listed name) := by
  unfold Listed
  infer_instance

/-- The names of a clause as they are written. -/
def listing (names : List Text) : Text :=
  ", ".toList.intercalate names

theorem occursIn_eq_false {t : Text} : occursIn t = false ↔ (clauses false t).2 = [] := by
  rw [occursIn, Bool.not_eq_false', List.isEmpty_iff]

theorem listing_cons (name next : Text) (names : List Text) :
    listing (name :: next :: names) = name ++ ',' :: ' ' :: listing (next :: names) := by
  rw [listing, List.intercalate_cons_cons]
  simp [listing]

/-- No keyword is in a list of names that have none. -/
theorem clauses_listing {names : List Text} (h : ∀ n ∈ names, Listed n) :
    (clauses false (listing names)).2 = [] := by
  induction names with
  | nil => rfl
  | cons name names ih =>
    obtain ⟨hname, hnames⟩ := List.forall_mem_cons.mp h
    cases names with
    | nil => simpa [listing] using occursIn_eq_false.mp hname.2.2
    | cons next names =>
      rw [listing_cons,
        clauses_append (wordEnds_cons (by decide) _) (occursIn_eq_false.mp hname.2.2),
        clauses_sign (by decide), clauses_sign (by decide)]
      exact ih hnames

theorem tight_listing {names : List Text} (h : ∀ n ∈ names, Listed n) (hne : names ≠ []) :
    (listing names).Tight := by
  induction names with
  | nil => exact absurd rfl hne
  | cons name names ih =>
    obtain ⟨hname, hnames⟩ := List.forall_mem_cons.mp h
    have hfirst := Name.tight_of_isValid hname.1
    cases names with
    | nil => simpa [listing] using hfirst
    | cons next names =>
      rw [listing_cons]
      exact hfirst.append [',', ' '] (ih hnames (List.cons_ne_nil _ _))

/-- The names are the entries of their list, blanks at its ends apart. -/
theorem items_listing {names : List Text} (h : ∀ n ∈ names, Listed n) (hne : names ≠ [])
    {as bs : Text} (has : ∀ a ∈ as, Text.isBlank a = true)
    (hbs : ∀ b ∈ bs, Text.isBlank b = true) :
    Text.items (as ++ (listing names ++ bs)) = names := by
  have hblank {s : Text} (hs : ∀ b ∈ s, Text.isBlank b = true) : ',' ∉ s := by
    intro hmem
    exact absurd (hs ',' hmem) (by decide)
  have hone {name as bs : Text} (hname : Listed name) (has : ∀ a ∈ as, Text.isBlank a = true)
      (hbs : ∀ b ∈ bs, Text.isBlank b = true) : Text.items (as ++ (name ++ bs)) = [name] := by
    have hcomma : ',' ∉ as ++ (name ++ bs) := by
      simp [hblank has, hblank hbs, Name.not_mem_of_isValid hname.1 (c := ',') (by decide)]
    rw [Text.items, List.splitOn_eq_singleton hcomma, List.map_singleton,
      Name.unquote_of_isValid hname.1 has hbs]
    simp [(Name.tight_of_isValid hname.1).ne_nil]
  induction names generalizing as with
  | nil => exact absurd rfl hne
  | cons name names ih =>
    obtain ⟨hname, hnames⟩ := List.forall_mem_cons.mp h
    cases names with
    | nil => simpa [listing] using hone hname has hbs
    | cons next names =>
      have hcomma : ',' ∉ as ++ (name ++ []) := by
        simp [hblank has, Name.not_mem_of_isValid hname.1 (c := ',') (by decide)]
      have hrest := ih hnames (List.cons_ne_nil _ _) Text.isBlank_space
      have hparts : as ++ (listing (name :: next :: names) ++ bs)
          = (as ++ (name ++ [])) ++ ',' :: ([' '] ++ (listing (next :: names) ++ bs)) := by
        simp [listing_cons]
      rw [hparts, Text.items_append_comma hcomma, hrest, hone hname has (by simp)]
      rfl

/-! ## Clauses as they are written -/

/-- A keyword and the names after it. -/
def clauseText (c : Text × List Text) : Text :=
  c.1 ++ ' ' :: listing c.2

/-- Clauses as they are written after a name; one without names is left out. -/
def written (cs : List (Text × List Text)) : Text :=
  cs.flatMap fun c => if c.2 = [] then [] else ' ' :: clauseText c

/-- The modifiers after the names of one more clause. -/
def gather (m : Modifiers) (c : Text × List Text) : Modifiers :=
  if isRoleWord c.1 then { m with roles := m.roles ++ c.2 }
  else { m with features := m.features ++ c.2 }

/-- The clauses have keywords and list names that have none. -/
def Writable (cs : List (Text × List Text)) : Prop :=
  ∀ c ∈ cs, (∃ forRoles, Spells c.1 forRoles) ∧ ∀ n ∈ c.2, Listed n

theorem written_cons (c : Text × List Text) (cs : List (Text × List Text)) :
    written (c :: cs) = (if c.2 = [] then [] else ' ' :: clauseText c) ++ written cs :=
  rfl

theorem gather_nil (m : Modifiers) (w : Text) : m.gather (w, []) = m := by
  simp [gather]

/-- Written clauses are nothing at all or follow one blank, with no other at their ends. -/
theorem written_cases {cs : List (Text × List Text)} (h : Writable cs) :
    written cs = [] ∨ ∃ core, written cs = ' ' :: core ∧ Text.Tight core := by
  induction cs with
  | nil => exact .inl rfl
  | cons c cs ih =>
    obtain ⟨⟨⟨forRoles, hword⟩, hnames⟩, hcs⟩ := List.forall_mem_cons.mp h
    rw [written_cons]
    by_cases hne : c.2 = []
    · rw [if_pos hne]
      exact ih hcs
    rw [if_neg hne]
    have hclause : (clauseText c).Tight :=
      (tight_of_spells hword).append [' '] (tight_listing hnames hne)
    rcases ih hcs with hnil | ⟨core, hcore, htight⟩
    · exact .inr ⟨clauseText c, by rw [hnil, List.append_nil], hclause⟩
    · exact .inr ⟨clauseText c ++ ([' '] ++ core), by rw [hcore]; rfl, hclause.append [' '] htight⟩

theorem add_eq_gather {c : Clause} {names : List Text} (hc : c.body.items = names)
    (hne : names ≠ []) (m : Modifiers) : m.add c = .ok (m.gather (c.word, names)) := by
  rw [add, hc, if_neg hne, gather]
  split <;> rfl

/-- The clauses that are found are those that are written. -/
theorem clauses_written {cs : List (Text × List Text)} (h : Writable cs) :
    ∃ found, clauses false (written cs) = ((written cs).take 1, found) ∧
      ∀ m, found.foldlM add m = .ok (cs.foldl gather m) := by
  induction cs with
  | nil => exact ⟨[], rfl, fun m => rfl⟩
  | cons c cs ih =>
    obtain ⟨⟨⟨forRoles, hword⟩, hnames⟩, hcs⟩ := List.forall_mem_cons.mp h
    obtain ⟨found, hfound, hgather⟩ := ih hcs
    obtain ⟨word, names⟩ := c
    rw [written_cons]
    by_cases hne : names = []
    · subst hne
      refine ⟨found, hfound, fun m => ?_⟩
      rw [List.foldl_cons, gather_nil]
      exact hgather m
    · have hlead : ∀ b ∈ (written cs).take 1, Text.isBlank b = true := by
        rcases written_cases hcs with hnil | ⟨core, hcore, -⟩
        · simp [hnil]
        · simp [hcore, show Text.isBlank ' ' = true by decide]
      have hends : wordEnds (written cs) = true := by
        rcases written_cases hcs with hnil | ⟨core, hcore, -⟩
        · rw [hnil]
          rfl
        · rw [hcore]
          exact wordEnds_cons (by decide) core
      have hlisting : (clauses false (' ' :: listing names)).2 = [] := by
        rw [clauses_sign (by decide)]
        exact clauses_listing hnames
      obtain ⟨k, hmatches⟩ := exists_matches_of_spells hword
      refine ⟨⟨word, ' ' :: listing names ++ (written cs).take 1⟩ :: found, ?_, fun m => ?_⟩
      · rw [if_neg hne, clauseText, List.cons_append, clauses_sign (by decide), List.append_assoc,
          clauses_of_matches hmatches (by rfl), clauses_append hends hlisting, hfound]
        rfl
      · rw [List.foldlM_cons, add_eq_gather
          (items_listing hnames hne Text.isBlank_space hlead) hne]
        exact hgather _

theorem read_trim (t : Text) : read t.trim = read t := by
  rw [read, read, Text.trim_trim]

/-- What is written is read. -/
theorem read_written {cs : List (Text × List Text)} (h : Writable cs) :
    read (written cs) = .ok (cs.foldl gather {}) := by
  obtain ⟨found, hfound, hgather⟩ := clauses_written h
  have htrim : clauses false (written cs).trim = ([], found) := by
    rcases written_cases h with hnil | ⟨core, hcore, htight⟩
    · rw [hnil] at hfound ⊢
      exact hfound
    · rw [hcore] at hfound ⊢
      rw [clauses_sign (by decide)] at hfound
      obtain ⟨hlead, hclauses⟩ := Prod.mk.inj hfound
      rw [show Text.trim (' ' :: core) = core from
        (Text.trim_blanks_append Text.isBlank_space core).trans htight.trim]
      exact Prod.ext (List.cons.inj hlead).2 hclauses
  rw [read, htrim]
  exact hgather {}

end Modifiers

end LuServer
