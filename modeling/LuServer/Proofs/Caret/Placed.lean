/-
# Where bullets are put

A new line gets a bullet by the mode of the line, and the mode is told from the lines above it one
by one.  The reader of a document keeps a block instead.  Both go by the signs `#` and `@`: a mode
other than none has such a line above it, with bullets and comments below, and that line decides
the block too.  They agree where the line has the sign or the keyword of the block.  Where it is
any other definition, the mode goes on but the block is over, or is one of another kind.

* `Mode.exists_opener`: the line that a mode comes from.
* `Line.Announces`: the lines with the sign or the keyword of a block.
* `Draft.mode_of_announces`: such a line opens the block, if it is accepted.
* `Continuation.modeOf`: the mode that a bullet is made for.
* `inserted_bullet_has_opener`: the block in which a bullet is put.
-/
import LuServer.Proofs.Caret.Continued
import LuServer.Proofs.Draft.Opened
import LuServer.Proofs.Grammar.Keyword
import LuServer.Proofs.Mode.Rescan
import Mathlib.Data.List.Induction

namespace LuServer

/-! ## The line that a mode comes from -/

/-- A line starts with `-` or is a comment. -/
def Line.Continues (l : Text) : Prop :=
  l.trim.head? = some '-' ∨ l.trim.head? = some '>'

theorem Line.opens_of_continues {l : Text} (h : Continues l) : opens l = false := by
  rcases h with h | h <;> rw [opens, h] <;> decide

namespace Mode

section Sign

variable {c : Char} {l : Text}

theorem head?_of_afterSign? (hc : Text.isBlank c = false) (h : (afterSign? c l).isSome = true) :
    l.trim.head? = some c := by
  obtain ⟨rest, hrest⟩ := Option.isSome_iff_exists.mp h
  rw [Text.trim, Text.dropHead?_eq_some.mp hrest, Text.trimEnd_cons hc]
  rfl

theorem head?_of_startsWith (hc : Text.isBlank c = false) (h : startsWith c l = true) :
    l.trim.head? = some c :=
  head?_of_afterSign? hc (Option.isSome_of_any h)

theorem head?_of_opens {word : Text} (h : opens word l = true) : l.trim.head? = some '@' := by
  refine head?_of_afterSign? (by decide) ?_
  unfold opens at h
  split at h
  · cases h
  · next hrest => rw [hrest]; rfl

/-- A line without the signs of openers keeps the mode only if it is a bullet or a comment. -/
theorem advance_of_not_opens {m : Mode} (hopens : Line.opens l = false)
    (hmode : m.advance l ≠ .other) : m.advance l = m ∧ Line.Continues l := by
  obtain ⟨hheader, hat⟩ : l.trim.head? ≠ some '#' ∧ l.trim.head? ≠ some '@' := by
    simpa [Line.opens] using hopens
  have hword (word : Text) : opens word l = false :=
    Bool.eq_false_iff.mpr fun h => hat (head?_of_opens h)
  have hsharp : startsWith '#' l = false :=
    Bool.eq_false_iff.mpr fun h => hheader (head?_of_startsWith (by decide) h)
  rw [advance, hword, hsharp, hword] at hmode ⊢
  simp only [Bool.false_eq_true, if_false] at hmode ⊢
  split at hmode
  · next hkeeps =>
    refine ⟨if_pos hkeeps, ?_⟩
    rw [Bool.or_eq_true, Bool.or_eq_true] at hkeeps
    rcases hkeeps with (h | h) | h
    · exact .inl (head?_of_startsWith (by decide) h)
    · exact absurd (head?_of_startsWith (by decide) h) hat
    · exact .inr (head?_of_afterSign? (by decide) h)
  · exact absurd rfl hmode

end Sign

/-- Below the last line with the sign of an opener a mode is kept by bullets and comments. -/
theorem exists_opener {ls : List Text} (h : afterLines .other ls ≠ .other) :
    ∃ above opener below, ls = above ++ opener :: below ∧ Line.opens opener = true ∧
      ∀ l ∈ below, Line.Continues l := by
  -- from the last line up: a line without the sign has its mode from the lines above it
  induction ls using List.reverseRecOn with
  | nil => exact absurd rfl h
  | append_singleton ls l ih =>
    rw [afterLines_append, afterLines_cons, afterLines_nil] at h
    cases hopens : Line.opens l with
    | true => exact ⟨ls, l, [], rfl, hopens, by simp⟩
    | false =>
      obtain ⟨hkept, hl⟩ := advance_of_not_opens hopens h
      rw [hkept] at h
      obtain ⟨above, opener, below, rfl, hopener, hbelow⟩ := ih h
      refine ⟨above, opener, below ++ [l], by simp, hopener, ?_⟩
      intro k hk
      rcases List.mem_append.mp hk with hk | hk
      · exact hbelow k hk
      · exact List.mem_singleton.mp hk ▸ hl

end Mode

/-! ## Signs and keywords of blocks -/

/-- A line has the sign of intents, or the sign of definitions and a keyword, for the bullets of
a mode. -/
inductive Line.Announces (l : Text) : Mode → Prop
  | header : l.trim.head? = some '#' → Announces l .utterance
  | keyword {rest word : Text} {kind : EntityKind} : l.trim = '@' :: rest →
    word.Begins rest.trim → EntityKind.ofKeyword? word = some kind → Announces l kind.mode

namespace Draft

variable {d : Draft} {l : Text}

theorem ofLine_of_header (hsign : l.trim.head? = some '#') (hok : (d.read l).2 = none) :
    ∃ name, LineForm.ofLine l = .header name := by
  obtain ⟨rest, hrest⟩ := List.head?_eq_some_iff.mp hsign
  have hform : LineForm.ofLine l = .ofHeader rest := Line.ofLine_cons hrest
  rcases Line.ofHeader_cases rest with ⟨name, hname, -⟩ | ⟨fault, hfault⟩
  · exact ⟨name, hform.trans hname⟩
  · rw [read, hform, hfault] at hok
    cases hok

theorem ofLine_of_at {rest : Text} (hrest : l.trim = '@' :: rest) (hok : (d.read l).2 = none) :
    ∃ declared, LineForm.ofLine l = .definition (.ok declared) ∧
      Definition.read rest.trim = .ok declared := by
  have hform : LineForm.ofLine l = .ofDefinition rest := Line.ofLine_cons hrest
  rcases Line.ofDefinition_cases rest with hread | ⟨fault, hfault⟩
  · rw [hread] at hform
    rw [read, hform] at hok
    cases hdeclared : Definition.read rest.trim with
    | ok declared => exact ⟨declared, hdeclared ▸ hform, rfl⟩
    | error fault =>
      rw [hdeclared] at hok
      cases hok
  · rw [read, hform, hfault] at hok
    cases hok

/-- A line with the sign or the keyword of a block opens it, if it is accepted.  Children need an
equals sign besides. -/
theorem mode_of_announces {mode : Mode} (h : Line.Announces l mode) (hok : (d.read l).2 = none)
    (hequals : mode = .mlEntity → l.trim.endsWith '=' = true) (m : Model) :
    (LineForm.ofLine l).mode m = mode := by
  cases h with
  | header hsign =>
    obtain ⟨name, hname⟩ := ofLine_of_header hsign hok
    rw [hname]
    rfl
  | @keyword rest word kind hrest hbegins hkind =>
    obtain ⟨declared, hform, hread⟩ := ofLine_of_at hrest hok
    obtain ⟨name, modifiers, rfl⟩ := Definition.read_of_begins hbegins hkind hread
    rw [hform, LineForm.mode, Definition.mode]
    split
    · rfl
    · next hbody =>
      -- no body, so the kind has no bullets: a list has its block anyway, children their sign
      cases kind with
      | list => exact absurd rfl hbody
      | ml =>
        have hlast : '=' ∈ l.trim := List.mem_of_getLast? (eq_of_beq (hequals rfl))
        have hmem : '=' ∈ rest := by simpa [hrest] using hlast
        exact absurd (Definition.splitBody_of_mem (Text.mem_trim (by decide) hmem)) hbody
      | _ => rfl

end Draft

/-! ## Bullets and blocks -/

namespace Continuation

/-- The mode that a bullet is made for. -/
def modeOf (b : Text) : Mode :=
  if b = "- ".toList then .utterance
  else if b = "\t-@".toList then .mlEntity
  else if b = "-".toList ∨ b = "\t-".toList then .listEntity
  else .other

theorem modeOf_bullets : ∀ b ∈ bullets, modeOf b ≠ .other := by
  decide

theorem modeAt_of_bullet? {d : Document} {n : Nat} {b : Text} (h : bullet? d n = some b) :
    d.modeAt n = modeOf b := by
  cases bullet?_eq_some_iff.mp h <;> assumption

/-- Children are begun right below the line that defines their entity. -/
theorem lineAbove_of_child {d : Document} {n : Nat} {b : Text} (h : bullet? d n = some b)
    (hb : modeOf b = .mlEntity) :
    Line.opens (lineAbove d.text n) = true ∧ (lineAbove d.text n).trim.endsWith '=' = true := by
  cases bullet?_eq_some_iff.mp h with
  | utterance => cases hb
  | child _ hequals hname =>
    refine ⟨?_, hequals⟩
    have hat : (Slot.afterAt? (lineAbove d.text n)).isSome = true :=
      Option.isSome_of_isSome_bind (Option.isSome_of_eq_some hname)
    rw [Slot.afterAt?, Option.isSome_map] at hat
    rw [Line.opens, Mode.head?_of_afterSign? (by decide) hat]
    decide
  | first => cases hb
  | next => cases hb

theorem take_lines_of_lineAbove {text : Text} {n : Nat} (h : lineAbove text n ≠ []) :
    (text.lines.take n).getLast? = some (lineAbove text n) := by
  cases n with
  | zero => exact absurd rfl h
  | succ n =>
    rw [lineAbove] at h ⊢
    cases hl : text.line? n with
    | none =>
      rw [hl] at h
      exact absurd rfl h
    | some l =>
      rw [List.take_add_one, show text.lines[n]? = some l from hl]
      simp

/-- The last line with the sign of an opener is the line above, if that has one. -/
theorem opener_eq_lineAbove {text : Text} {n : Nat} {above below : List Text} {opener : Text}
    (hlines : text.lines.take n = above ++ opener :: below)
    (hbelow : ∀ l ∈ below, Line.Continues l) (hopens : Line.opens (lineAbove text n) = true) :
    opener = lineAbove text n := by
  have hne : lineAbove text n ≠ [] := by
    intro hnil
    rw [hnil] at hopens
    cases hopens
  have hlast := take_lines_of_lineAbove hne
  rw [hlines, List.getLast?_append, List.getLast?_cons, Option.some_or] at hlast
  cases hend : below.getLast? with
  | none => simpa [hend] using hlast
  | some l =>
    obtain rfl : l = lineAbove text n := by simpa [hend] using hlast
    rw [Line.opens_of_continues (hbelow _ (List.mem_of_getLast? hend))] at hopens
    cases hopens

theorem bullet?_of_mem {d : Document} {p : Position} {e : TextEdit}
    (he : e ∈ continueBlock d p trigger) (hinserts : e.newText ≠ []) :
    bullet? d p.line = some e.newText := by
  by_cases hlone : (lineAbove d.text p.line).trim = loneBullet
  · rw [continueBlock_of_lone hlone, List.mem_singleton] at he
    rw [he] at hinserts
    exact absurd rfl hinserts
  · rw [continueBlock_of_not_lone hlone, Option.mem_toList, Option.map_eq_some_iff] at he
    obtain ⟨b, hb, rfl⟩ := he
    exact hb

end Continuation

open Continuation

/-- **The block of an inserted bullet.**  Let the lines above the caret be accepted.  If a bullet
is inserted, then it is one for utterances, values or children, and above it is a line that starts
with `#` or `@`, with bullets and comments below.  The bullet comes into the block that this line
opens.  That is a block for such bullets if the line has its sign or its keyword. -/
theorem inserted_bullet_has_opener (text culture : Text) (version : Int) (p : Position)
    (haccepted : (Draft.start culture).rejections 1 (text.lines.take p.line) = [])
    (e : TextEdit) (he : e ∈ continueBlock (.ofText text version) p trigger)
    (hinserts : e.newText ≠ []) :
    modeOf e.newText ≠ .other ∧
      ∃ above opener below, text.lines.take p.line = above ++ opener :: below ∧
        Line.opens opener = true ∧ (∀ l ∈ below, Line.Continues l) ∧
        let block := ((Draft.start culture).after (text.lines.take p.line)).block
        block.mode = (LineForm.ofLine opener).mode ((Draft.start culture).after above).model ∧
          (Line.Announces opener (modeOf e.newText) → block.mode = modeOf e.newText) := by
  have hbullet := bullet?_of_mem he hinserts
  have hother := modeOf_bullets _ (mem_bullets hbullet)
  have hmode : Mode.afterLines .other (text.lines.take p.line) = modeOf e.newText := by
    rw [← modeAt_of_bullet? hbullet]
    exact (ModeCache.modeAt_ofText text p.line).symm
  obtain ⟨above, opener, below, hlines, hopens, hbelow⟩ := Mode.exists_opener (hmode ▸ hother)
  refine ⟨hother, above, opener, below, hlines, hopens, hbelow, ?_⟩
  rw [hlines] at haccepted ⊢
  have hblock := Draft.mode_after haccepted hopens fun l hl => Line.opens_of_continues (hbelow l hl)
  refine ⟨hblock, fun hannounces => hblock.trans ?_⟩
  refine Draft.mode_of_announces hannounces (Draft.read_of_accepted haccepted) ?_ _
  intro hml
  -- the equals sign is on the line above, which is a definition and so the last opener itself
  obtain ⟨hat, hequals⟩ := lineAbove_of_child hbullet hml
  rw [opener_eq_lineAbove hlines hbelow hat]
  exact hequals

/-- Under a list with one value and a comment. -/
theorem inserted_bullet_has_opener_list :
    let text : Text := "@ list city =\n- Paris :\n> in France\n".toList
    let lines := text.lines.take 3
    let e : TextEdit := .insertion ⟨3, 0⟩ "-".toList
    ((Draft.start "en-us".toList).rejections 1 lines = [] ∧
        e ∈ continueBlock (.ofText text 1) ⟨3, 0⟩ trigger) ∧
      ((Draft.start "en-us".toList).after lines).block.mode = .listEntity := by
  intro text lines e
  have haccepted : (Draft.start "en-us".toList).rejections 1 lines = [] := by decide
  have he : e ∈ continueBlock (.ofText text 1) ⟨3, 0⟩ trigger := by decide
  obtain ⟨-, above, opener, below, hlines, hopens, -, -, hmode⟩ :=
    inserted_bullet_has_opener text _ 1 ⟨3, 0⟩ haccepted e he (by decide)
  have hopener : opener = "@ list city =".toList := by
    have hmem : opener ∈ lines := by
      change opener ∈ text.lines.take 3
      simp [hlines]
    exact (by decide : ∀ l ∈ lines, Line.opens l = true → l = "@ list city =".toList) _ hmem hopens
  refine ⟨⟨haccepted, he⟩, hmode ?_⟩
  rw [hopener]
  have hrest : Text.trim "@ list city =".toList = '@' :: " list city =".toList := by decide
  have hword : Text.Begins "list".toList (Text.trim " list city =".toList) :=
    ⟨" city =".toList, by decide, by rintro _ ⟨⟩; decide⟩
  exact .keyword hrest hword (EntityKind.ofKeyword?_keyword .list)

/-- An entity is defined among the utterances of an intent. -/
theorem inserted_bullet_out_of_block :
    let text : Text := "# Greet\n@ prebuilt number\n".toList
    let lines := text.lines.take 2
    (Draft.start "en-us".toList).rejections 1 lines = [] ∧ 2 + 1 = text.lineCount ∧
      continueBlock (.ofText text 1) ⟨2, 0⟩ trigger = [.insertion ⟨2, 0⟩ "- ".toList] ∧
      ((Draft.start "en-us".toList).after lines).block = .outside := by
  decide

end LuServer
