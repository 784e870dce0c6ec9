/-
# Where keywords stand

The keywords of modifiers are found where they stand as words of their own, each after the end of
the one before.  What follows a keyword, up to the next one, lists the names that it introduces.

* `Modifiers.Stands`: a keyword between two boundaries of words.
* `Modifiers.Found`: the keywords of a text, found one after the other, and what is between them.
* `Modifiers.found_iff`: the clauses are exactly these.
* `Modifiers.read_eq_ok_iff`: the modifiers that the clauses give.
* `Modifiers.modifiers_by_keyword`: which texts can be read, and which names are roles.
-/
import LuServer.Proofs.Grammar.Clauses
import LuServer.Proofs.Grammar.Proper

namespace LuServer.Modifiers

/-! ## Keywords in a text -/

/-- Whether a word starts or ends between two parts of a text. -/
def boundary (before after : Text) : Bool :=
  before.getLast?.any Text.isWord != after.head?.any Text.isWord

/-- A keyword between two parts of a text, with a boundary at both ends. -/
structure Stands (k : Keyword) (before word after : Text) : Prop where
  spelled : k.Matches word
  starts : boundary before (word ++ after) = true
  ends : boundary (before ++ word) after = true

/-- The keywords of a text that stands behind `before`, found from the left: what comes before
the first one, and for each one what follows it up to the next one or the end. -/
inductive Found : Text → Text → Text → List Clause → Prop
  | done (before : Text) : Found before [] [] []
  | skip {before t lead : Text} {c : Char} {cs : List Clause}
      (hnone : ∀ k word after, c :: t = word ++ after → ¬ Stands k before word after)
      (h : Found (before ++ [c]) t lead cs) : Found before (c :: t) (c :: lead) cs
  | keyword {k : Keyword} {before word after body : Text} {cs : List Clause}
      (hword : Stands k before word after) (h : Found (before ++ word) after body cs) :
      Found before (word ++ after) [] (⟨word, body⟩ :: cs)

/-- Whether the last character belongs to a word. -/
def endsInWord (t : Text) : Bool :=
  t.getLast?.any Text.isWord

theorem wordEnds_eq (t : Text) : wordEnds t = !t.head?.any Text.isWord := by
  cases t <;> rfl

theorem endsInWord_concat (t : Text) (c : Char) : endsInWord (t ++ [c]) = Text.isWord c := by
  simp [endsInWord]

/-- A keyword stands where no word goes on and none continues. -/
theorem stands_iff {k : Keyword} {before word after : Text} :
    Stands k before word after ↔
      k.Matches word ∧ endsInWord before = false ∧ wordEnds after = true := by
  have hedges (h : k.Matches word) :
      boundary before (word ++ after) = !endsInWord before ∧
      boundary (before ++ word) after = wordEnds after := by
    have hall := h.isWord
    constructor
    · obtain ⟨c, u, rfl⟩ := List.exists_cons_of_ne_nil h.ne_nil
      simp [boundary, endsInWord, hall c List.mem_cons_self]
    · obtain ⟨u, c, rfl⟩ := (List.eq_nil_or_concat word).resolve_left h.ne_nil
      simp [boundary, wordEnds_eq, hall c (by simp)]
  constructor
  · rintro ⟨hword, hstarts, hends⟩
    rw [(hedges hword).1, Bool.not_eq_true'] at hstarts
    rw [(hedges hword).2] at hends
    exact ⟨hword, hstarts, hends⟩
  · rintro ⟨hword, hstarts, hends⟩
    refine ⟨hword, ?_, ?_⟩
    · rw [(hedges hword).1, hstarts]
      rfl
    · rw [(hedges hword).2, hends]

/-- What is found are the clauses. -/
theorem Found.clauses_eq {before t lead : Text} {cs : List Clause}
    (h : Found before t lead cs) : clauses (endsInWord before) t = (lead, cs) := by
  induction h with
  | done before => rfl
  | @skip before t lead c cs hnone h ih =>
    have hkey : (if endsInWord before then none else keyword? (c :: t)) = none := by
      split
      · rfl
      · next hfree =>
        rw [Option.eq_none_iff_forall_ne_some]
        intro w hw
        obtain ⟨k, after, ht, hends, hword⟩ := keyword?_eq_some_iff.mp hw
        exact hnone k w after ht (stands_iff.mpr ⟨hword, by simpa using hfree, hends⟩)
    rw [endsInWord_concat] at ih
    rw [clauses, hkey, ih]
  | @keyword k before word after body cs hword h ih =>
    obtain ⟨hmatches, hfree, hends⟩ := stands_iff.mp hword
    -- behind the keyword a word has ended, so what follows is searched like a text of its own
    rw [clauses_of_wordEnds hends] at ih
    rw [hfree, clauses_of_matches hmatches hends, ih]

/-- Every text can be searched to its end. -/
theorem exists_found (before t : Text) : ∃ lead cs, Found before t lead cs := by
  -- on the length of the text, since a keyword is passed over as a whole
  induction hn : t.length using Nat.strong_induction_on generalizing before t with
  | _ n ih =>
  subst hn
  cases t with
  | nil => exact ⟨[], [], .done before⟩
  | cons c t =>
    by_cases hstands : ∃ k word after, c :: t = word ++ after ∧ Stands k before word after
    · obtain ⟨k, word, after, ht, hword⟩ := hstands
      have hshorter : after.length < (c :: t).length := by
        rw [ht, List.length_append]
        have := List.length_pos_iff.mpr hword.spelled.ne_nil
        omega
      obtain ⟨body, cs, hrest⟩ := ih after.length hshorter (before ++ word) after rfl
      rw [ht]
      exact ⟨[], ⟨word, body⟩ :: cs, .keyword hword hrest⟩
    · obtain ⟨lead, cs, hrest⟩ := ih t.length (Nat.lt_succ_self _) (before ++ [c]) t rfl
      refine ⟨c :: lead, cs, .skip ?_ hrest⟩
      intro k word after ht hword
      exact hstands ⟨k, word, after, ht, hword⟩

/-- **The clauses of a text are the keywords that stand in it**, each with the text up to the next
one. -/
theorem found_iff {before t lead : Text} {cs : List Clause} :
    Found before t lead cs ↔ clauses (endsInWord before) t = (lead, cs) := by
  refine ⟨Found.clauses_eq, ?_⟩
  intro h
  obtain ⟨lead', cs', hfound⟩ := exists_found before t
  obtain ⟨rfl, rfl⟩ := Prod.mk.inj (hfound.clauses_eq.symm.trans h)
  exact hfound

/-! ## Roles and features -/

/-- The names that clauses list. -/
def listed (cs : List Clause) : List Text :=
  cs.flatMap fun c => c.body.items

theorem add_eq_ok_iff {m n : Modifiers} {c : Clause} :
    m.add c = .ok n ↔ c.body.items ≠ [] ∧ n = m.gather (c.word, c.body.items) := by
  by_cases hitems : c.body.items = []
  · rw [add]
    simp [hitems]
  · rw [add_eq_gather rfl hitems, and_iff_right hitems, Except.ok.injEq, eq_comm]

/-- The modifiers with the names that further clauses list. -/
def extended (m : Modifiers) (cs : List Clause) : Modifiers where
  roles := m.roles ++ listed (cs.filter fun c => isRoleWord c.word)
  features := m.features ++ listed (cs.filter fun c => !isRoleWord c.word)

theorem extended_nil (m : Modifiers) : m.extended [] = m := by
  simp [extended, listed]

theorem extended_cons (m : Modifiers) (c : Clause) (cs : List Clause) :
    m.extended (c :: cs) = (m.gather (c.word, c.body.items)).extended cs := by
  by_cases hrole : isRoleWord c.word = true
  · simp [extended, gather, listed, hrole]
  · simp [extended, gather, listed, hrole]

theorem foldlM_add_eq_ok_iff {cs : List Clause} {m n : Modifiers} :
    cs.foldlM add m = .ok n ↔ (∀ c ∈ cs, c.body.items ≠ []) ∧ n = m.extended cs := by
  induction cs generalizing m with
  | nil =>
    rw [extended_nil, eq_comm (a := n)]
    simp [pure, Except.pure]
  | cons c cs ih =>
    rw [List.foldlM_cons, bind_eq_ok, List.forall_mem_cons, extended_cons]
    constructor
    · rintro ⟨next, hnext, hrest⟩
      obtain ⟨hne, rfl⟩ := add_eq_ok_iff.mp hnext
      obtain ⟨hall, hn⟩ := ih.mp hrest
      exact ⟨⟨hne, hall⟩, hn⟩
    · rintro ⟨⟨hne, hall⟩, hn⟩
      exact ⟨_, add_eq_ok_iff.mpr ⟨hne, rfl⟩, ih.mpr ⟨hall, hn⟩⟩

/-! ## Reading modifiers -/

theorem Found.spelled {before t lead : Text} {cs : List Clause} (h : Found before t lead cs) :
    ∀ c ∈ cs, ∃ k : Keyword, k.Matches c.word := by
  induction h with
  | done before => simp
  | skip hnone h ih => exact ih
  | keyword hword h ih => exact List.forall_mem_cons.mpr ⟨⟨_, hword.spelled⟩, ih⟩

/-- Nothing comes before the keywords of a text that starts with one. -/
theorem Found.lead_eq_nil_iff {before t lead : Text} {cs : List Clause}
    (h : Found before t lead cs) :
    lead = [] ↔ t = [] ∨ ∃ k word after, t = word ++ after ∧ Stands k before word after := by
  cases h with
  | done => simp
  | skip hnone h =>
    refine iff_of_false (List.cons_ne_nil _ _) ?_
    rintro (ht | ⟨k, word, after, ht, hword⟩)
    · cases ht
    · exact hnone k word after ht hword
  | keyword hword h => exact iff_of_true rfl (.inr ⟨_, _, _, rfl, hword⟩)

theorem read_eq_ok_iff {t lead : Text} {cs : List Clause} (h : Found [] t.trim lead cs)
    {m : Modifiers} :
    read t = .ok m ↔ lead = [] ∧ (∀ c ∈ cs, c.body.items ≠ []) ∧ m = extended {} cs := by
  have hclauses : clauses false t.trim = (lead, cs) := found_iff.mp h
  rw [read, hclauses]
  by_cases hlead : lead = []
  · rw [← foldlM_add_eq_ok_iff]
    simp [hlead]
  · simp [hlead]

/-- Clauses taken apart list the same names. -/
theorem listed_parts_perm (p : Clause → Bool) (cs : List Clause) :
    (listed (cs.filter p) ++ listed (cs.filter fun c => !p c)).Perm (listed cs) := by
  rw [listed, listed, ← List.flatMap_append]
  exact (List.filter_append_perm p cs).flatMap_right _

/-- Clauses that list names cannot be left out unnoticed. -/
theorem listed_filter_eq_iff {p q : Clause → Bool} {cs : List Clause}
    (hitems : ∀ c ∈ cs, c.body.items ≠ []) (hpq : ∀ c ∈ cs, p c = true → q c = true) :
    listed (cs.filter p) = listed (cs.filter q) ↔ ∀ c ∈ cs, q c = true → p c = true := by
  constructor
  · intro heq c hc hq
    by_contra hnot
    have hp : p c = false := Bool.eq_false_iff.mpr hnot
    have hkept : (cs.filter q).filter p = cs.filter p := by
      rw [List.filter_filter]
      refine List.filter_congr fun d hd => ?_
      rw [Bool.eq_iff_iff, Bool.and_eq_true, and_iff_left_iff_imp]
      exact hpq d hd
    have hlength := (listed_parts_perm p (cs.filter q)).length_eq
    rw [hkept, heq, List.length_append] at hlength
    -- the clauses left out list nothing, but `c` is one of them
    have hnothing : listed ((cs.filter q).filter fun d => !p d) = [] :=
      List.eq_nil_of_length_eq_zero (by omega)
    have hleft : c ∈ (cs.filter q).filter fun d => !p d := by simp [hc, hq, hp]
    exact hitems c hc (List.flatMap_eq_nil_iff.mp hnothing c hleft)
  · intro hqp
    refine congrArg listed (List.filter_congr fun c hc => ?_)
    rw [Bool.eq_iff_iff]
    exact ⟨hpq c hc, hqp c hc⟩

section Spelled

variable {cs : List Clause} (hspelled : ∀ c ∈ cs, ∃ k : Keyword, k.Matches c.word)
include hspelled

theorem isRoleWord_of_mem {c : Clause} (hc : c ∈ cs) :
    isRoleWord c.word = true ↔ Keyword.hasRole.Matches c.word ∧ c.word[2]? ≠ some 'ſ' := by
  obtain ⟨k, hk⟩ := hspelled c hc
  exact isRoleWord_iff hk

/-- The clauses whose names are roles. -/
theorem filter_isRoleWord :
    (cs.filter fun c => isRoleWord c.word)
      = cs.filter fun c => Keyword.hasRole.Matches c.word ∧ c.word[2]? ≠ some 'ſ' := by
  refine List.filter_congr ?_
  intro c hc
  rw [Bool.eq_iff_iff, decide_eq_true_iff]
  exact isRoleWord_of_mem hspelled hc

/-- The names of the others are features. -/
theorem filter_not_isRoleWord :
    (cs.filter fun c => !isRoleWord c.word)
      = cs.filter fun c => Keyword.usesFeature.Matches c.word ∨ c.word[2]? = some 'ſ' := by
  refine List.filter_congr ?_
  intro c hc
  obtain ⟨k, hk⟩ := hspelled c hc
  rw [Bool.eq_iff_iff, decide_eq_true_iff, Bool.not_eq_true', ← Bool.not_eq_true,
    isRoleWord_iff hk]
  cases k with
  | hasRole =>
    have hother : ¬ Keyword.usesFeature.Matches c.word := fun h => not_matches_hasRole h hk
    simp [hk, hother]
  | usesFeature => simp [hk, not_matches_hasRole hk]

/-- Only a long s takes names away from the roles. -/
theorem listed_as_spelled_iff (hitems : ∀ c ∈ cs, c.body.items ≠ []) :
    (listed (cs.filter fun c => isRoleWord c.word)
          = listed (cs.filter fun c => Keyword.hasRole.Matches c.word) ∧
        listed (cs.filter fun c => !isRoleWord c.word)
          = listed (cs.filter fun c => Keyword.usesFeature.Matches c.word)) ↔
      ∀ c ∈ cs, Keyword.hasRole.Matches c.word → c.word[2]? ≠ some 'ſ' := by
  constructor
  · rintro ⟨hsame, -⟩ c hc hmatches
    have hkept := (listed_filter_eq_iff hitems
      (fun d hd h => decide_eq_true ((isRoleWord_of_mem hspelled hd).mp h).1)).mp hsame
    exact ((isRoleWord_of_mem hspelled hc).mp (hkept c hc (decide_eq_true hmatches))).2
  · intro hshort
    have hsame : ∀ c ∈ cs, isRoleWord c.word = decide (Keyword.hasRole.Matches c.word) := by
      intro c hc
      rw [Bool.eq_iff_iff, isRoleWord_of_mem hspelled hc, decide_eq_true_iff,
        and_iff_left_iff_imp]
      exact hshort c hc
    refine ⟨congrArg listed (List.filter_congr hsame), ?_⟩
    rw [filter_not_isRoleWord hspelled]
    refine congrArg listed (List.filter_congr fun c hc => ?_)
    rw [decide_eq_decide, or_iff_left_iff_imp]
    intro hlong
    obtain ⟨k, hk⟩ := hspelled c hc
    cases k with
    | hasRole => exact absurd hlong (hshort c hc hk)
    | usesFeature => exact hk

end Spelled

/-- **Names go where their keyword says, but not if it has a long s.**  Modifiers can be read
exactly if they are blank or start with a keyword, and every keyword is followed by a name before
the next one.  The names after a keyword for roles are then the roles, and the others the
features, each in their order, but names after a keyword for roles whose third letter is the long
s are features. -/
theorem modifiers_by_keyword (t : Text) :
    ∃ lead cs, (∀ lead' cs', Found [] t.trim lead' cs' ↔ lead' = lead ∧ cs' = cs) ∧
      ((∃ m, read t = .ok m) ↔
        (t.trim = [] ∨ ∃ k word after, t.trim = word ++ after ∧ Stands k [] word after) ∧
          ∀ c ∈ cs, c.body.items ≠ []) ∧
      ∀ m, read t = .ok m →
        m.roles = listed (cs.filter fun c =>
          Keyword.hasRole.Matches c.word ∧ c.word[2]? ≠ some 'ſ') ∧
        m.features = listed (cs.filter fun c =>
          Keyword.usesFeature.Matches c.word ∨ c.word[2]? = some 'ſ') ∧
        (m.roles ++ m.features).Perm (listed cs) ∧
        ((m.roles = listed (cs.filter fun c => Keyword.hasRole.Matches c.word) ∧
            m.features = listed (cs.filter fun c => Keyword.usesFeature.Matches c.word)) ↔
          ∀ c ∈ cs, Keyword.hasRole.Matches c.word → c.word[2]? ≠ some 'ſ') := by
  obtain ⟨lead, cs, hfound⟩ := exists_found [] t.trim
  refine ⟨lead, cs, ?_, ?_, ?_⟩
  · intro lead' cs'
    rw [found_iff, found_iff.mp hfound, Prod.mk.injEq, eq_comm (a := lead), eq_comm (a := cs)]
  · rw [← hfound.lead_eq_nil_iff]
    simp [read_eq_ok_iff hfound]
  · intro m hm
    obtain ⟨-, hitems, rfl⟩ := (read_eq_ok_iff hfound).mp hm
    refine ⟨congrArg listed (filter_isRoleWord hfound.spelled),
      congrArg listed (filter_not_isRoleWord hfound.spelled), listed_parts_perm _ cs, ?_⟩
    exact listed_as_spelled_iff hfound.spelled hitems

/-- Names of every sort, after keywords of either sort. -/
theorem modifiers_by_keyword_mixed :
    let t : Text :=
      " usesFeature a, \"b c\" hasRoles from,, to HASROLE via haſRole lost hasroleſ kept ".toList
    ∃ m, read t = .ok m ∧ m.roles = ["from", "to", "via", "kept"].map String.toList ∧
      m.features = ["a", "b c", "lost"].map String.toList := by
  intro t
  obtain ⟨lead, cs, honly, hread, hnames⟩ := modifiers_by_keyword t
  obtain ⟨rfl, rfl⟩ := (honly [] [⟨"usesFeature".toList, " a, \"b c\" ".toList⟩,
    ⟨"hasRoles".toList, " from,, to ".toList⟩, ⟨"HASROLE".toList, " via ".toList⟩,
    ⟨"haſRole".toList, " lost ".toList⟩, ⟨"hasroleſ".toList, " kept".toList⟩]).mp
      (found_iff.mpr (by decide +kernel))
  obtain ⟨m, hm⟩ := hread.mpr ⟨.inr ⟨.usesFeature, "usesFeature".toList,
    " a, \"b c\" hasRoles from,, to HASROLE via haſRole lost hasroleſ kept".toList,
    by decide +kernel, by decide +kernel, by decide +kernel, by decide +kernel⟩,
    by decide +kernel⟩
  obtain ⟨hroles, hfeatures, -⟩ := hnames m hm
  exact ⟨m, hm, hroles.trans (by decide +kernel), hfeatures.trans (by decide +kernel)⟩

/-- A keyword for roles that has a long s gives no role. -/
theorem role_lost_after_long_s :
    Found [] "haſRoles origin".toList [] [⟨"haſRoles".toList, " origin".toList⟩] ∧
      Keyword.hasRole.Matches "haſRoles".toList ∧
      Text.items " origin".toList = ["origin".toList] ∧
      read "haſRoles origin".toList = .ok { features := ["origin".toList] } := by
  refine ⟨found_iff.mpr ?_, ?_, ?_, ?_⟩ <;> decide +kernel

end LuServer.Modifiers
