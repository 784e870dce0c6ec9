/-
# Copies without labels

The edits that put copies of a labelled utterance above and below it leave the document
with the same meaning.  The text around the line stays, the copies have no labels left, and,
under an intent, the lines that are rejected are the same ones and the model only has the two
copies more, next to the utterance they were made from.

* `applyAll_copies`: the text after the edits.
* `Draft.read_copies`: what the utterance does with its copies around it, and without them.
* `moved`: a rejected line as it is told after the edits.
* `unlabelled_copies_keep_meaning`: all of this for any line that has copies made of it.
-/
import LuServer.Proofs.Caret.Unlabelled
import LuServer.Proofs.Draft.Precede
import LuServer.Proofs.Draft.Utterances
import LuServer.Proofs.Draft.WellFormed
import LuServer.Proofs.Text.Relined

namespace LuServer

/-! ## The text after the edits -/

namespace TextEdit

theorem splice_append (s t new : Text) : splice (s ++ t) s.length s.length new = s ++ new ++ t := by
  simp [splice]

end TextEdit

/-- The text around a line. -/
theorem Text.exists_around {text c : Text} {n : Nat} (h : text.line? n = some c) :
    ∃ before ret after, text.rawLines = before ++ (c ++ ret) :: after ∧ before.length = n ∧
      (∀ b ∈ ret, Text.isBlank b = true) ∧ '{' ∉ ret := by
  rw [Text.line?, Text.lines, List.getElem?_map, Option.map_eq_some_iff] at h
  obtain ⟨raw, hraw, rfl⟩ := h
  obtain ⟨before, after, hlines, hn⟩ := Text.exists_lines_around hraw
  obtain ⟨ret, hret, hending⟩ := Text.exists_ending raw
  refine ⟨before, ret, after, by rw [← hret, hlines], hn, ?_, ?_⟩
  · rcases hending with rfl | rfl
    · simp
    · exact List.all_eq_true.mp (by decide)
  · rcases hending with rfl | rfl <;> decide

section Text

variable {text c u ret : Text} {n : Nat} {before after : List Text}
  (hraw : text.rawLines = before ++ (c ++ ret) :: after) (hn : before.length = n)

include hraw

theorem eq_around :
    text = Text.closedLines before ++ c ++ (ret ++ Text.openedLines after) := by
  rw [← Text.ofLines_rawLines text, hraw, Text.ofLines_append_cons]
  simp

include hn

theorem take_rawLines : text.rawLines.take n = before := by
  rw [hraw, List.take_left' hn]

/-- The text after the edits: the line has its copies around it. -/
theorem applyAll_copies (hline : text.line? n = some c) :
    TextEdit.applyAll text
        [.insertion ⟨n, 0⟩ (u ++ ['\n']), .insertion ⟨n, c.width⟩ ('\n' :: u)]
      = Text.ofLines (before ++ u :: c :: (u ++ ret) :: after) := by
  have hstart : text.offset ⟨n, 0⟩ = (Text.closedLines before).length := by
    rw [Text.offset_of_line, take_rawLines hraw hn]
  have hstop : text.offset ⟨n, c.width⟩ = (Text.closedLines before ++ c).length := by
    rw [Text.offset_of_lineEnd hline, take_rawLines hraw hn, List.length_append]
  have hbelow :
      TextEdit.splice text (text.offset ⟨n, c.width⟩) (text.offset ⟨n, c.width⟩) ('\n' :: u)
        = Text.closedLines before ++ (c ++ '\n' :: u ++ ret ++ Text.openedLines after) := by
    rw [hstop, eq_around hraw, TextEdit.splice_append]
    simp
  rw [TextEdit.applyAll, List.foldr_cons, List.foldr_cons, List.foldr_nil]
  dsimp only [TextEdit.insertion, Range.point]
  rw [hbelow, hstart, TextEdit.splice_append, Text.ofLines_append_cons]
  simp [Text.openedLines]

omit hn in
/-- The copies and the line are lines of the text after the edits. -/
theorem rawLines_copies (hsubset : u ⊆ c) :
    (Text.ofLines (before ++ u :: c :: (u ++ ret) :: after)).rawLines
      = before ++ u :: c :: (u ++ ret) :: after := by
  have hold {l : Text} (hl : l ∈ before ++ (c ++ ret) :: after) : '\n' ∉ l :=
    Text.not_mem_of_mem_rawLines (hraw ▸ hl)
  obtain ⟨hc, hret⟩ : '\n' ∉ c ∧ '\n' ∉ ret := by
    simpa using hold (l := c ++ ret) (by simp)
  have hu : '\n' ∉ u := fun hmem => hc (hsubset hmem)
  refine Text.rawLines_ofLines ?_ (by simp)
  intro l hl
  rcases List.mem_append.mp hl with hl | hl
  · exact hold (List.mem_append_left _ hl)
  · simp only [List.mem_cons] at hl
    rcases hl with rfl | rfl | rfl | hl
    · exact hu
    · exact hc
    · simp [hu, hret]
    · exact hold (by simp [hl])

/-- The copies are lines without labels. -/
theorem unlabelledCopies?_copies (hsubset : u ⊆ c) (hopen : '{' ∉ u) (hret : '{' ∉ ret) :
    unlabelledCopies? (Text.ofLines (before ++ u :: c :: (u ++ ret) :: after)) (n + 1) = none ∧
    unlabelledCopies? (Text.ofLines (before ++ u :: c :: (u ++ ret) :: after)) (n + 3) = none := by
  subst hn
  have hplain {l : Text} (hl : '{' ∉ l) : Label.strip? (Text.dropReturn l) = none :=
    Label.strip?_of_not_mem fun hmem => hl (Text.dropReturn_subset l hmem)
  constructor
  · simp [unlabelledCopies?, Text.line?, Text.lines, rawLines_copies hraw hsubset, hplain hopen]
  · simp [unlabelledCopies?, Text.line?, Text.lines, rawLines_copies hraw hsubset,
      hplain (l := u ++ ret) (by simp [hopen, hret])]

end Text

/-! ## Reading the copies -/

/-- A bullet with a hyphen. -/
theorem LineForm.ofLine_hyphen {lead : Text} (hlead : ∀ b ∈ lead, Text.isBlank b = true)
    (rest : Text) : LineForm.ofLine (lead ++ '-' :: rest) = .item (Text.trim rest) := by
  have htrim := Text.trim_sign hlead (c := '-') (by decide) rest
  rw [Line.ofLine_cons htrim, Text.trim_trimEnd]
  rfl

/-- A line with labels and the same without them are bullets, of which the second is an
utterance that mentions nothing. -/
theorem Label.Unlabels.bullets {c u : Text} (h : Label.Unlabels c u) :
    ∃ content plain, LineForm.ofLine c = .item content ∧ LineForm.ofLine u = .item plain ∧
      Mention.all plain = .ok [] := by
  obtain ⟨lead, labelled, free, rfl, rfl, hlead, hlabel, hfree⟩ := h
  refine ⟨Text.trim labelled, Text.trim free, LineForm.ofLine_hyphen hlead labelled,
    LineForm.ofLine_hyphen hlead free, ?_⟩
  obtain ⟨hopen, hclose⟩ := hfree.not_mem
  -- without braces it is plain text, which has no spans
  refine Mention.all_eq_ok_iff.mpr ⟨?_, [], .plain ⟨mt Text.mem_of_mem_trim hopen,
    mt Text.mem_of_mem_trim hclose⟩, .nil⟩
  rw [ne_eq, Text.trim_eq_nil_iff]
  intro hblank
  obtain ⟨a, ha, hsays⟩ := hfree.says hlabel
  rw [hblank a ha] at hsays
  cases hsays

namespace Draft

section Intent

variable {i : Nat} {c u content plain : Text}

/-- Under an intent without utterances, one without mentions is the first. -/
theorem read_plain {b : Draft} (hb : b.Silent i) (hblock : b.block = .intent i)
    (hu : LineForm.ofLine u = .item plain) (hplain : Mention.all plain = .ok []) :
    b.read u = (b.precede i [plain], none) := by
  rw [read, hu, apply, item, hblock]
  dsimp only
  rw [utterance, hplain, ← hb.precede_eq plain]
  simp [Mention.labels, Mention.references, Intent.addUtterance]

/-- Under an intent without utterances, one that is not rejected is the first. -/
theorem read_bullet {b : Draft} (hb : b.Silent i) (hblock : b.block = .intent i)
    (hc : LineForm.ofLine c = .item content) :
    ∃ (rest : Draft) (said : List Text), rest.Silent i ∧ rest.block = .intent i ∧
      (b.read c).1 = rest.precede i said ∧ ((b.read c).2 = none → said = [content]) := by
  rw [read, hc, apply, item, hblock]
  dsimp only
  unfold utterance
  cases Mention.all content with
  | error fault =>
    refine ⟨b, [], hb, hblock, (precede_nil b i).symm, ?_⟩
    intro hnone
    cases hnone
  | ok mentions =>
    have hrest : ({ b with model := b.model.withMentions mentions } : Draft).Silent i := hb
    exact ⟨_, [content], hrest, hblock, hrest.precede_eq content, fun _ => rfl⟩

/-- What an utterance does with its copies around it, and without them: the draft without the
utterances of the intent is the same, and so is the fault. -/
theorem read_copies {d : Draft} (hblock : d.block = .intent i) {x : Intent}
    (hx : d.model.intents[i]? = some x) (hc : LineForm.ofLine c = .item content)
    (hu : LineForm.ofLine u = .item plain) (hplain : Mention.all plain = .ok []) :
    ∃ (rest : Draft) (said : List Text), i < rest.model.intents.length ∧
      (d.read c).1 = rest.precede i (x.utterances ++ said) ∧
      d.after [u, c, u] = rest.precede i (x.utterances ++ plain :: said ++ [plain]) ∧
      (∀ n, d.rejections n [u, c, u] = rejection (n + 1) (d.read c).2) ∧
      ((d.read c).2 = none → said = [content]) := by
  -- the three lines are followed from the draft in which the intent has no utterance
  obtain ⟨b, hb, hbblock, hd⟩ := exists_silent hx
  obtain ⟨rest, said, hrest, hrblock, hread, hsaid⟩ := read_bullet hb (hbblock.trans hblock) hc
  have hone := read_plain hb (hbblock.trans hblock) hu hplain
  have htwo := read_plain hrest hrblock hu hplain
  have hfault : (d.read c).2 = (b.read c).2 := by
    rw [hd, read_precede i _ hb.lt]
  have hcopy (us : List Text) : (b.precede i us).read u = (b.precede i (us ++ [plain]), none) := by
    rw [read_precede i us hb.lt, hone, precede_precede]
  have hline (us : List Text) :
      (b.precede i us).read c = (rest.precede i (us ++ said), (b.read c).2) := by
    rw [read_precede i us hb.lt, hread, precede_precede]
  have hcopy' (us : List Text) :
      (rest.precede i us).read u = (rest.precede i (us ++ [plain]), none) := by
    rw [read_precede i us hrest.lt, htwo, precede_precede]
  refine ⟨rest, said, hrest.lt, ?_, ?_, ?_, ?_⟩
  · rw [hd, hline]
  · rw [hd, after_cons, hcopy, after_cons, hline, after_cons, hcopy', after_nil]
    simp
  · intro n
    rw [hfault, hd, rejections_cons, hcopy, rejections_cons, hline, rejections_cons, hcopy']
    simp [rejection]
  · rw [hfault]
    exact hsaid

end Intent

end Draft

/-! ## Documents with copies -/

/-- A rejection as it is told once line `n + 1` has a copy above and below it. -/
def moved (n : Nat) (r : Nat × String) : Nat × String :=
  (if r.1 ≤ n then r.1 else if r.1 = n + 1 then n + 2 else r.1 + 2, r.2)

theorem trim_lines (t : Text) : t.lines.map Text.trim = t.rawLines.map Text.trim := by
  rw [Text.lines, List.map_map]
  exact List.map_congr_left fun l _ => Text.trim_dropReturn l

namespace Draft

/-- Lines above the copies stay where they are. -/
theorem map_moved_above {s : Draft} {before : List Text} {n : Nat} (hn : before.length = n) :
    (s.rejections 1 before).map (moved n) = s.rejections 1 before := by
  calc (s.rejections 1 before).map (moved n) = (s.rejections 1 before).map id := by
        refine List.map_congr_left ?_
        intro r hr
        have hline := line_of_mem_rejections hr
        rw [moved, if_pos (by omega), id]
    _ = s.rejections 1 before := List.map_id _

/-- Lines below them are two lines further down. -/
theorem map_moved_below (d : Draft) (n : Nat) (ls : List Text) :
    (d.rejections (n + 2) ls).map (moved n) = d.rejections (n + 2 + 2) ls := by
  rw [rejections_add d (n + 2) 2]
  refine List.map_congr_left ?_
  intro r hr
  have hline := line_of_mem_rejections hr
  rw [moved, if_neg (by omega), if_neg (by omega)]

section Document

variable {s : Draft} {i n : Nat} {before after : List Text} {c u content plain : Text}
  (hs : s.WellFormed) (hn : before.length = n) (hblock : (s.after before).block = .intent i)
  (hc : LineForm.ofLine c = .item content) (hu : LineForm.ofLine u = .item plain)
  (hplain : Mention.all plain = .ok [])

include hs hn hblock hc hu hplain

/-- The same lines are rejected, further down. -/
theorem rejections_copies :
    s.rejections 1 (before ++ u :: c :: u :: after)
      = (s.rejections 1 (before ++ c :: after)).map (moved n) := by
  have hpoints := (wellFormed_after hs before).block
  rw [hblock] at hpoints
  obtain ⟨x, hx⟩ := hpoints
  obtain ⟨rest, said, hi, hold, hnew, hfaults, -⟩ := read_copies hblock hx hc hu hplain
  -- the rejections above the copies, of the line itself, and below
  have hhere : (rejection (n + 1) ((s.after before).read c).2).map (moved n)
      = rejection (n + 2) ((s.after before).read c).2 := by
    cases ((s.after before).read c).2 <;> simp [rejection, moved]
  rw [rejections_append, rejections_append, hn, List.map_append, map_moved_above hn,
    show u :: c :: u :: after = [u, c, u] ++ after from rfl, rejections_append, hfaults, hnew,
    rejections_precede i _ hi, rejections_cons, hold, rejections_precede i _ hi, List.map_append,
    Nat.add_comm 1 n, hhere, map_moved_below]
  rfl

omit hn in
/-- The copies are all that the model has more. -/
theorem finish_copies (hok : s.rejections 1 (before ++ c :: after) = []) :
    ∃ said later,
      ((s.after before).model.intents[i]?).map Intent.utterances = some said ∧
      ((s.after (before ++ c :: after)).finish.intents[i]?).map Intent.utterances
        = some (said ++ content :: later) ∧
      (s.after (before ++ u :: c :: u :: after)).finish
        = (s.after (before ++ c :: after)).finish.modifyIntent i fun x =>
          { x with utterances := said ++ plain :: content :: plain :: later } := by
  have hpoints := (wellFormed_after hs before).block
  rw [hblock] at hpoints
  obtain ⟨x, hx⟩ := hpoints
  obtain ⟨rest, said, hi, hold, hnew, -, hsaid⟩ := read_copies hblock hx hc hu hplain
  have hfault : ((s.after before).read c).2 = none := by
    rw [rejections_append, rejections_cons, List.append_eq_nil_iff, List.append_eq_nil_iff] at hok
    exact rejection_eq_nil.mp hok.2.1
  rw [hsaid hfault] at hold hnew
  have hlines : s.after (before ++ c :: after)
      = (rest.after after).precede i (x.utterances ++ [content]) := by
    rw [after_append, after_cons, hold, after_precede i _ hi]
  have hcopies : s.after (before ++ u :: c :: u :: after)
      = (rest.after after).precede i (x.utterances ++ [plain, content] ++ [plain]) := by
    rw [show u :: c :: u :: after = [u, c, u] ++ after from rfl, after_append, after_append, hnew,
      after_precede i _ hi]
  have hlength : i < (rest.after after).finish.intents.length := by
    have hgrown := (extends_after rest after).intents.length_le
    rw [List.length_map, List.length_map] at hgrown
    rw [finish_intents]
    exact Nat.lt_of_lt_of_le hi hgrown
  have hy := List.getElem?_eq_getElem hlength
  refine ⟨x.utterances, ((rest.after after).finish.intents[i]).utterances, by rw [hx]; rfl, ?_, ?_⟩
  · rw [hlines, finish_precede]
    simp [Model.precede, Model.modifyIntent, hy]
  · rw [hcopies, hlines, finish_precede, finish_precede]
    unfold Model.precede Model.modifyIntent
    dsimp only
    rw [List.modify_modify_eq, modify_congr hy]
    simp

end Document

end Draft

/-- The reader meets the same lines with the copies among them. -/
theorem trim_lines_copies {text c u ret : Text} {before after : List Text}
    (hraw : text.rawLines = before ++ (c ++ ret) :: after)
    (hret : ∀ b ∈ ret, Text.isBlank b = true) (hsubset : u ⊆ c) :
    text.lines.map Text.trim = (before ++ c :: after).map Text.trim ∧
    (Text.ofLines (before ++ u :: c :: (u ++ ret) :: after)).lines.map Text.trim
      = (before ++ u :: c :: u :: after).map Text.trim := by
  constructor
  · rw [trim_lines, hraw]
    simp [Text.trim_append_blanks hret]
  · rw [trim_lines, rawLines_copies hraw hsubset]
    simp [Text.trim_append_blanks hret]

theorem unlabelledCopies?_eq_some {text : Text} {n : Nat} {edits : List TextEdit}
    (h : unlabelledCopies? text (n + 1) = some edits) :
    ∃ c u, text.line? n = some c ∧ Label.strip? c = some u ∧
      edits = [.insertion ⟨n, 0⟩ (u ++ ['\n']), .insertion ⟨n, c.width⟩ ('\n' :: u)] := by
  obtain ⟨c, hline, h⟩ := Option.bind_eq_some_iff.mp h
  obtain ⟨u, hstrip, h⟩ := Option.bind_eq_some_iff.mp h
  exact ⟨c, u, hline, hstrip, (Option.some.inj h).symm⟩

/-- Copies without labels, made of any line that has labels: the text around the line stays,
each copy is the line with its labels replaced by their words and has no labels to remove, and
under an intent the same lines are rejected as before and the model has the two copies more,
next to the utterance. -/
theorem unlabelled_copies_keep_meaning {text : Text} {n : Nat} {edits : List TextEdit}
    (h : unlabelledCopies? text (n + 1) = some edits) :
    ∃ above c below u content plain : Text,
      text = above ++ c ++ below ∧ above = Text.closedLines (text.rawLines.take n) ∧
      text.line? n = some c ∧
      TextEdit.applyAll text edits = above ++ u ++ '\n' :: c ++ '\n' :: u ++ below ∧
      Label.Unlabels c u ∧ '{' ∉ u ∧ '}' ∉ u ∧
      unlabelledCopies? (TextEdit.applyAll text edits) (n + 1) = none ∧
      unlabelledCopies? (TextEdit.applyAll text edits) (n + 3) = none ∧
      Line.bullet? c = some content ∧ Line.bullet? u = some plain ∧
      ∀ culture i, ((Draft.start culture).after (text.lines.take n)).block = .intent i →
        rejections (TextEdit.applyAll text edits) culture
          = (rejections text culture).map (moved n) ∧
        ∀ m, parse text culture = .ok m → ∃ said later,
          (((Draft.start culture).after (text.lines.take n)).model.intents[i]?).map
            Intent.utterances = some said ∧
          (m.intents[i]?).map Intent.utterances = some (said ++ content :: later) ∧
          parse (TextEdit.applyAll text edits) culture
            = .ok (m.modifyIntent i fun x =>
                { x with utterances := said ++ plain :: content :: plain :: later }) := by
  obtain ⟨c, u, hline, hstrip, rfl⟩ := unlabelledCopies?_eq_some h
  obtain ⟨before, ret, after, hraw, hn, hblank, hbrace⟩ := Text.exists_around hline
  have hlabels := Label.unlabels_of_strip? hstrip
  obtain ⟨hopen, hclose⟩ := hlabels.not_mem
  obtain ⟨content, plain, hc, hu, hplain⟩ := hlabels.bullets
  have hedited := applyAll_copies (u := u) hraw hn hline
  obtain ⟨hold, hnew⟩ := trim_lines_copies hraw hblank hlabels.subset
  obtain ⟨hnone, hnone'⟩ := unlabelledCopies?_copies hraw hn hlabels.subset hopen hbrace
  have hbefore : (text.lines.take n).map Text.trim = before.map Text.trim := by
    rw [List.map_take, trim_lines, ← List.map_take, take_rawLines hraw hn]
  refine ⟨Text.closedLines before, c, ret ++ Text.openedLines after, u, content, plain,
    eq_around hraw, by rw [take_rawLines hraw hn], hline, ?_, hlabels, hopen, hclose,
    hedited ▸ hnone, hedited ▸ hnone', (Line.of_item hc).2, (Line.of_item hu).2, ?_⟩
  · rw [hedited, Text.ofLines_append_cons]
    simp [Text.openedLines]
  -- for the reader a carriage return does not count
  intro culture i hblock
  have hs := Draft.wellFormed_start culture
  rw [Draft.after_congr hbefore] at hblock ⊢
  have hrejections : rejections (Text.ofLines (before ++ u :: c :: (u ++ ret) :: after)) culture
      = (rejections text culture).map (moved n) := by
    rw [rejections_eq, rejections_eq, Draft.rejections_congr hnew, Draft.rejections_congr hold]
    exact Draft.rejections_copies hs hn hblock hc hu hplain
  rw [hedited]
  refine ⟨hrejections, ?_⟩
  intro m hm
  obtain ⟨hok, rfl⟩ := parse_eq_ok_iff.mp hm
  have hok' := hok
  rw [rejections_eq, Draft.rejections_congr hold] at hok'
  obtain ⟨said, later, hsaid, hlater, hfinish⟩ :=
    Draft.finish_copies hs hblock hc hu hplain hok'
  refine ⟨said, later, hsaid, ?_, ?_⟩
  · rw [Draft.after_congr hold]
    exact hlater
  · rw [parse_eq_ok_iff]
    refine ⟨by rw [hrejections, hok]; rfl, ?_⟩
    rw [Draft.after_congr hnew, Draft.after_congr hold]
    exact hfinish

/-- A labelled line that ends with a carriage return and has a character of two units. -/
theorem unlabelled_copies_keep_meaning_greeted :
    let text : Text := "# Greet\n- 😀 \x7bwho=bob\x7d\r\n- bye".toList
    let edits : List TextEdit :=
      [.insertion ⟨1, 0⟩ "- 😀 bob\n".toList, .insertion ⟨1, 14⟩ "\n- 😀 bob".toList]
    let greet : Intent :=
      { name := "Greet".toList, utterances := ["😀 \x7bwho=bob\x7d".toList, "bye".toList] }
    let m : Model := { intents := [greet], labels := ["who".toList] }
    unlabelledCopies? text 2 = some edits ∧ parse text [] = .ok m ∧
      unlabelledCopies? (TextEdit.applyAll text edits) 2 = none ∧
      rejections (TextEdit.applyAll text edits) [] = (rejections text []).map (moved 1) ∧
      ∃ plain, parse (TextEdit.applyAll text edits) []
        = .ok (m.modifyIntent 0 fun x =>
            { x with utterances := [plain, "😀 \x7bwho=bob\x7d".toList, plain, "bye".toList] }) := by
  intro text edits greet m
  have hedits : unlabelledCopies? text 2 = some edits := rfl
  have hparse : parse text [] = .ok m := rfl
  obtain ⟨above, c, below, u, content, plain, -, -, -, -, -, -, -, hnone, -, -, -, hmeaning⟩ :=
    unlabelled_copies_keep_meaning hedits
  obtain ⟨hrejections, hmodel⟩ := hmeaning [] 0 rfl
  obtain ⟨said, later, hsaid, hlater, hcopies⟩ := hmodel m hparse
  obtain rfl : [] = said := Option.some.inj hsaid
  obtain ⟨rfl, rfl⟩ := List.cons.inj (Option.some.inj hlater)
  exact ⟨hedits, hparse, hnone, hrejections, plain, hcopies⟩

end LuServer
