/-
# Definitions as they are written

A definition that is written down with a name of one word and clauses is read as it is written, with
its kind or without.  The signs at which definitions are cut are in none of the parts, the parts end
where the next ones begin, and names that look like keywords are no trouble, as the word that comes
first is the kind, and the next one is the name.

* `Name.IsWord`: names of one word.
* `Text.Uncut`: texts without the signs at which definitions and lines are cut.
* `Name.IsWord.split`: the name at the start of a text, and the rest.
* `Definition.header`: the part before the body, as it is written.
* `Definition.read_written`: what is read of a definition with a kind.
* `Definition.read_written_separated`: what is read of a definition without one.
-/
import LuServer.Proofs.Grammar.Clauses
import LuServer.Proofs.Grammar.Keyword

namespace LuServer

/-! ## Words and signs -/

namespace Text

/-- None of the signs at which a definition or a line is cut is in a text. -/
def Uncut (t : Text) : Prop :=
  ∀ c ∈ t, c ∉ ['=', ':', '\n']

theorem uncut_nil : Uncut [] :=
  fun _ hc => absurd hc List.not_mem_nil

theorem Uncut.append {s t : Text} (hs : Uncut s) (ht : Uncut t) : Uncut (s ++ t) :=
  List.forall_mem_append.mpr ⟨hs, ht⟩

theorem Uncut.cons {c : Char} (hc : c ∉ ['=', ':', '\n']) {t : Text} (ht : Uncut t) :
    Uncut (c :: t) :=
  List.forall_mem_cons.mpr ⟨hc, ht⟩

theorem Uncut.not_mem {t : Text} (h : Uncut t) {c : Char} (hc : c ∈ ['=', ':', '\n']) : c ∉ t :=
  fun hmem => h c hmem hc

end Text

namespace Name

/-- A name is one word. -/
structure IsWord (name : Text) : Prop where
  ne_nil : name ≠ []
  isNameChar : ∀ c ∈ name, Name.isNameChar c = true

theorem uncut_of_isNameChar {t : Text} (h : ∀ c ∈ t, Name.isNameChar c = true) : t.Uncut := by
  intro c hc hsign
  have hname := h c hc
  simp only [List.mem_cons, List.not_mem_nil, or_false] at hsign
  rcases hsign with rfl | rfl | rfl <;> exact absurd hname (by decide)

namespace IsWord

variable {name : Text} (h : IsWord name)
include h

theorem not_blank : ∀ c ∈ name, Text.isBlank c = false :=
  fun c hc => isBlank_of_isNameChar (h.isNameChar c hc)

theorem tight : name.Tight :=
  Text.tight_of_not_blank h.ne_nil h.not_blank

theorem check : Name.check name = .ok () := by
  have hvalid : isValid name = true := by
    rw [isValid, Bool.and_eq_true, Bool.and_eq_true, Option.any_eq_true, Option.any_eq_true]
    refine ⟨⟨List.all_eq_true.mpr ?_, name.head h.ne_nil, List.head?_eq_some_head h.ne_nil, ?_⟩,
      name.getLast h.ne_nil, List.getLast?_eq_some_getLast h.ne_nil, ?_⟩
    · intro c hc
      rw [h.isNameChar c hc]
      rfl
    · exact h.isNameChar _ (List.head_mem _)
    · exact h.isNameChar _ (List.getLast_mem _)
  rw [Name.check, hvalid]
  rfl

/-- The word at the start of a text is its name. -/
theorem split {rest : Text} (hrest : ∀ c ∈ rest.head?, Text.isBlank c = true) :
    Name.split (name ++ rest) = .ok (name, rest.trim) := by
  have htrim := Text.trim_word h.ne_nil h.not_blank rest
  have hhead := Text.head?_of_isPrefix (Text.trimEnd_isPrefix rest) hrest
  have hquote : (name ++ Text.trimEnd rest).dropHead? '"' = none := by
    obtain ⟨c, tail, hname⟩ := List.exists_cons_of_ne_nil h.ne_nil
    have hc : c ≠ '"' := by
      rintro rfl
      have hquote := h.isNameChar '"' (hname ▸ List.mem_cons_self)
      revert hquote
      decide
    simp [hname, Text.dropHead?, hc]
  rw [Name.split, htrim, hquote]
  dsimp only
  rw [Text.nextWord_append h.ne_nil h.not_blank hhead, Text.trim_trimEnd]

/-- A name of one word has no remark to be taken off. -/
theorem plainName (kind : EntityKind) : Definition.plainName kind name = name := by
  have hkept : ∀ c ∈ name, decide (c ≠ '(') = true := by
    intro c hc
    refine decide_eq_true ?_
    rintro rfl
    have hparenthesis := h.isNameChar '(' hc
    revert hparenthesis
    decide
  rw [Definition.plainName, Text.upTo, List.takeWhile_eq_self_iff.mpr hkept, h.tight.trim, ite_self]

end IsWord

end Name

namespace Modifiers

theorem uncut_listing {names : List Text} (h : ∀ n ∈ names, Listed n) : (listing names).Uncut := by
  have hone {name : Text} (hname : Listed name) : name.Uncut := by
    intro c hc hsign
    simp only [List.mem_cons, List.not_mem_nil, or_false] at hsign
    rcases hsign with rfl | rfl | rfl
    · exact Name.not_mem_of_isValid hname.1 (by decide) hc
    · exact Name.not_mem_of_isValid hname.1 (by decide) hc
    · exact hname.2.1 hc
  induction names with
  | nil => exact Text.uncut_nil
  | cons name names ih =>
    obtain ⟨hname, hnames⟩ := List.forall_mem_cons.mp h
    cases names with
    | nil => simpa [listing] using hone hname
    | cons next names =>
      rw [listing_cons]
      exact (hone hname).append (.cons (by decide) (.cons (by decide) (ih hnames)))

theorem uncut_written {cs : List (Text × List Text)} (h : Writable cs) : (written cs).Uncut := by
  induction cs with
  | nil => exact Text.uncut_nil
  | cons c cs ih =>
    obtain ⟨⟨⟨forRoles, hword⟩, hnames⟩, hcs⟩ := List.forall_mem_cons.mp h
    have hkey : c.1.Uncut := by
      refine Name.uncut_of_isNameChar ?_
      intro d hd
      rw [Name.isNameChar, (isWord_of_spells hword).2 d hd]
      rfl
    rw [written_cons]
    split
    · exact ih hcs
    · exact .append (.cons (by decide) (hkey.append (.cons (by decide) (uncut_listing hnames))))
        (ih hcs)

theorem head?_written {cs : List (Text × List Text)} (h : Writable cs) :
    ∀ c ∈ (written cs).head?, Text.isBlank c = true := by
  intro c hc
  rcases written_cases h with hnil | ⟨core, hcore, -⟩
  · rw [hnil] at hc
    cases hc
  · rw [hcore] at hc
    obtain rfl := Option.some.inj hc
    decide

/-- What is written behind a name ends without a blank. -/
theorem tight_append_written {t : Text} (ht : t.Tight) {cs : List (Text × List Text)}
    (h : Writable cs) : Text.Tight (t ++ written cs) := by
  rcases written_cases h with hnil | ⟨core, hcore, htight⟩
  · rwa [hnil, List.append_nil]
  · rw [hcore]
    exact ht.append [' '] htight

end Modifiers

/-! ## Definitions with a kind -/

namespace Definition

open Modifiers

theorem splitBody_of_uncut {t : Text} (h : t.Uncut) : splitBody t = (t, none) := by
  have hcut : t.cutAt '=' = none := Text.cutAt_eq_none.mpr (h.not_mem (by decide))
  have hcolon : t.dropLast? ':' = none := by
    refine if_neg fun hlast => ?_
    exact h.not_mem (by decide) (List.mem_of_getLast? hlast)
  rw [splitBody, hcut, hcolon]

theorem splitBody_append_equals {t : Text} (h : t.Uncut) (body : Text) :
    splitBody (t ++ '=' :: body) = (t.trim, some body.trim) := by
  rw [splitBody, Sliced.cutAt_of_first (h.not_mem (by decide))]

variable {keyword name : Text} {kind : EntityKind} {cs : List (Text × List Text)}

/-- The part before the body as it is written: keyword, name and clauses. -/
def header (keyword name : Text) (cs : List (Text × List Text)) : Text :=
  keyword ++ ' ' :: (name ++ written cs)

theorem tight_header (hkind : EntityKind.ofKeyword? keyword = some kind) (hname : Name.IsWord name)
    (hcs : Writable cs) : (header keyword name cs).Tight := by
  obtain ⟨hne, hword⟩ := EntityKind.isDotted_of_ofKeyword? (Option.isSome_of_mem hkind)
  have hkeyword : keyword.Tight :=
    Text.tight_of_not_blank hne fun c hc => Text.isBlank_of_isDotted (hword c hc)
  exact hkeyword.append [' '] (tight_append_written hname.tight hcs)

theorem uncut_header (hkind : EntityKind.ofKeyword? keyword = some kind) (hname : Name.IsWord name)
    (hcs : Writable cs) : (header keyword name cs).Uncut := by
  obtain ⟨-, hword⟩ := EntityKind.isDotted_of_ofKeyword? (Option.isSome_of_mem hkind)
  have hkeyword : keyword.Uncut := by
    refine Name.uncut_of_isNameChar ?_
    intro c hc
    rw [Name.isNameChar, Bool.or_eq_true]
    exact .inl (hword c hc)
  exact hkeyword.append
    (.cons (by decide) ((Name.uncut_of_isNameChar hname.isNameChar).append (uncut_written hcs)))

/-- The part before the body is cut into its three parts. -/
theorem readTyped_written (hname : Name.IsWord name)
    (hprebuilt : kind = .prebuilt → EntityKind.isPrebuiltName name = true) (hcs : Writable cs)
    (body : Option Text) :
    readTyped kind (name ++ written cs) body =
      .ok (.typed kind name (cs.foldl gather {}) body) := by
  have hknown : ¬(kind = .prebuilt ∧ EntityKind.isPrebuiltName name = false) := by
    rintro ⟨hkind, hunknown⟩
    rw [hprebuilt hkind] at hunknown
    cases hunknown
  unfold readTyped
  rw [hname.split (head?_written hcs)]
  change (if name = [] then _ else _) = _
  rw [if_neg hname.ne_nil, hname.plainName, hname.check]
  change (if kind = .prebuilt ∧ EntityKind.isPrebuiltName name = false then _ else _) = _
  rw [if_neg hknown, read_trim, Modifiers.read_written hcs]
  rfl

/-- A definition that is written with its kind is read as it is written, with an empty body if
there is an equals sign. -/
theorem read_written (hkind : EntityKind.ofKeyword? keyword = some kind) (hname : Name.IsWord name)
    (hprebuilt : kind = .prebuilt → EntityKind.isPrebuiltName name = true) (hcs : Writable cs) :
    read (header keyword name cs) = .ok (.typed kind name (cs.foldl gather {}) none) ∧
      read (header keyword name cs ++ " =".toList)
        = .ok (.typed kind name (cs.foldl gather {}) (some [])) := by
  have hsome := Option.isSome_of_mem hkind
  obtain ⟨hne, hword⟩ := EntityKind.isDotted_of_ofKeyword? hsome
  have hnext : (header keyword name cs).nextWord = (keyword, name ++ written cs) := by
    rw [header, Text.nextWord_append hne (fun c hc => Text.isBlank_of_isDotted (hword c hc))
      (by simp [show Text.isBlank ' ' = true by decide])]
    exact congrArg _ ((Text.trim_blanks_append Text.isBlank_space _).trans
      (tight_append_written hname.tight hcs).trim)
  have hparts (body : Option Text) : ∀ t : Text,
      splitBody t = (header keyword name cs, body) →
        read t = .ok (.typed kind name (cs.foldl gather {}) body) := by
    intro t ht
    unfold read
    rw [ht]
    dsimp only
    rw [hnext]
    dsimp only
    rw [if_neg (EntityKind.asciiLower_ne_intent hsome), hkind]
    exact readTyped_written hname hprebuilt hcs body
  constructor
  · exact hparts none _ (splitBody_of_uncut (uncut_header hkind hname hcs))
  · refine hparts (some []) _ ?_
    have huncut : (header keyword name cs ++ [' ']).Uncut :=
      (uncut_header hkind hname hcs).append (.cons (by decide) Text.uncut_nil)
    rw [show header keyword name cs ++ " =".toList = (header keyword name cs ++ [' ']) ++ '=' :: []
        by simp,
      splitBody_append_equals huncut, Text.trim_append_blanks Text.isBlank_space,
      (tight_header hkind hname hcs).trim, Text.trim_nil]

/-- So is one without its kind, if its name could not be taken for one.  What follows its equals
sign is the body. -/
theorem read_written_separated (hname : Name.IsWord name)
    (hkind : EntityKind.ofKeyword? name = none) (hintent : name.asciiLower ≠ "intent".toList)
    (hcs : Writable cs) (body : Text) :
    read (name ++ written cs ++ ' ' :: '=' :: body)
      = .ok (.separated name (cs.foldl gather {}) (some body.trim)) := by
  have huncut : (name ++ written cs ++ [' ']).Uncut :=
    ((Name.uncut_of_isNameChar hname.isNameChar).append (uncut_written hcs)).append
      (.cons (by decide) Text.uncut_nil)
  have hbody : splitBody (name ++ written cs ++ ' ' :: '=' :: body)
      = (name ++ written cs, some body.trim) := by
    rw [show name ++ written cs ++ ' ' :: '=' :: body
        = (name ++ written cs ++ [' ']) ++ '=' :: body by simp,
      splitBody_append_equals huncut, Text.trim_append_blanks Text.isBlank_space,
      (tight_append_written hname.tight hcs).trim]
  unfold read
  rw [hbody]
  dsimp only
  rw [Text.nextWord_append hname.ne_nil hname.not_blank (head?_written hcs)]
  dsimp only
  rw [if_neg hintent, hkind]
  unfold readSeparated
  rw [hname.split (head?_written hcs)]
  change (Name.check name >>= fun _ => _) = _
  rw [hname.check, read_trim, Modifiers.read_written hcs]
  rfl

end Definition

end LuServer
