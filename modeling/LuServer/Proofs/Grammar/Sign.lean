/-
# The sign at the start of a line

The first sign of a line, blanks apart, tells most of what the line is: `#` and `@` open
something, `-`, `*` and `+` are bullets, `>` starts a comment.

* `Line.opens`: whether a line has a sign that opens something.
* `Line.heading?`: the name that a header gives.
* `Line.bullet?`: what stands after a bullet.
* `Line.Inert`: blank lines, comments and imports.
* `Line.of_header`, `Line.of_definition`, `Line.of_item`, `Line.of_inert`: the signs of lines of
  a given form.
-/
import LuServer.Grammar.LineForm

namespace LuServer.Line

/-- Whether a line starts with `#` or `@`. -/
def opens (l : Text) : Bool :=
  l.trim.head? == some '#' || l.trim.head? == some '@'

/-- The name in a line that starts with `#`. -/
def heading? (l : Text) : Option Text :=
  match l.trim with
  | '#' :: rest => some (Text.trim (rest.dropWhile (· == '#')))
  | _ => none

/-- The text after the bullet that a line starts with. -/
def bullet? (l : Text) : Option Text :=
  match l.trim with
  | [] => none
  | c :: rest => if c = '-' ∨ c = '*' ∨ c = '+' then some (Text.trim rest) else none

/-- A line is blank, a comment or an import. -/
def Inert (l : Text) : Prop :=
  l.trim = [] ∨ l.trim.head? = some '>' ∨ LineForm.isImport l.trim = true

instance (l : Text) : Decidable (Inert l) := by
  unfold Inert
  infer_instance

theorem head?_of_isImport {t : Text} (h : LineForm.isImport t = true) : t.head? = some '[' := by
  unfold LineForm.isImport at h
  split at h
  · rfl
  · cases h

/-- An inert line has no other form. -/
theorem ofLine_of_inert {l : Text} (h : Inert l) : LineForm.ofLine l = .inert := by
  unfold LineForm.ofLine
  rcases h with h | h | h
  · rw [h]
  · obtain ⟨rest, hrest⟩ := List.head?_eq_some_iff.mp h
    rw [hrest]
    rfl
  · obtain ⟨rest, hrest⟩ := List.head?_eq_some_iff.mp (head?_of_isImport h)
    rw [hrest] at h ⊢
    simp [h]

/-! ## Forms and signs -/

/-- The five ways in which a sign decides the form of a line. -/
theorem ofLine_cons {l : Text} {c : Char} {rest : Text} (h : l.trim = c :: rest) :
    LineForm.ofLine l
      = if c = '>' then .inert
        else if c = '#' then .ofHeader rest
        else if c = '@' then .ofDefinition rest
        else if c = '-' ∨ c = '*' ∨ c = '+' then .item (Text.trim rest)
        else if LineForm.isImport (c :: rest) then .inert
        else .rejected (.unrecognizedLine (c :: rest)) := by
  rw [LineForm.ofLine, h]

/-- What follows `#` is a header with the name in it, unless the name is empty or a question. -/
theorem ofHeader_cases (rest : Text) :
    (∃ name, LineForm.ofHeader rest = .header name ∧
      name = Text.trim (rest.dropWhile (· == '#')) ∧ name ≠ [] ∧ name.head? ≠ some '?') ∨
      ∃ fault, LineForm.ofHeader rest = .rejected fault := by
  unfold LineForm.ofHeader
  dsimp only
  split
  · exact .inr ⟨_, rfl⟩
  · next hne =>
    split
    · exact .inr ⟨_, rfl⟩
    · next hquestion => exact .inl ⟨_, rfl, rfl, hne, hquestion⟩

/-- What follows `@` is a definition, unless it is empty. -/
theorem ofDefinition_cases (rest : Text) :
    LineForm.ofDefinition rest = .definition (Definition.read (Text.trim rest)) ∨
      ∃ fault, LineForm.ofDefinition rest = .rejected fault := by
  unfold LineForm.ofDefinition
  dsimp only
  split
  · exact .inr ⟨_, rfl⟩
  · exact .inl rfl

/-- The sign of a line by its form, in one place for the four forms. -/
theorem sign_of_form (l : Text) :
    match LineForm.ofLine l with
    | .inert => opens l = false ∧ bullet? l = none
    | .header name =>
      opens l = true ∧ heading? l = some name ∧ name ≠ [] ∧ name.head? ≠ some '?'
    | .definition result =>
      opens l = true ∧ heading? l = none ∧ l.trim.head? = some '@' ∧
        ∃ declared, result = Definition.read declared
    | .item content => opens l = false ∧ bullet? l = some content
    | .rejected _ => True := by
  cases htrim : l.trim with
  | nil => simp [LineForm.ofLine, htrim, opens, bullet?]
  | cons c rest =>
    rw [ofLine_cons htrim]
    by_cases hcomment : c = '>'
    · simp [hcomment, htrim, opens, bullet?]
    rw [if_neg hcomment]
    by_cases hheader : c = '#'
    · subst hheader
      rcases ofHeader_cases rest with ⟨name, h, hname, hproper⟩ | ⟨fault, h⟩
      · simpa [h, htrim, opens, heading?, ← hname] using hproper
      · simp [h]
    rw [if_neg hheader]
    by_cases hdefinition : c = '@'
    · subst hdefinition
      rcases ofDefinition_cases rest with h | ⟨fault, h⟩
      · rw [h]
        exact ⟨by simp [opens, htrim], by simp [heading?, htrim], by simp, _, rfl⟩
      · simp [h]
    rw [if_neg hdefinition]
    by_cases hbullet : c = '-' ∨ c = '*' ∨ c = '+'
    · simp [hbullet, htrim, opens, bullet?, hheader, hdefinition]
    rw [if_neg hbullet]
    by_cases himport : LineForm.isImport (c :: rest) = true
    · simp [himport, htrim, opens, bullet?, hheader, hdefinition, hbullet]
    · simp [himport]

theorem of_inert {l : Text} (h : LineForm.ofLine l = .inert) :
    opens l = false ∧ bullet? l = none := by
  simpa only [h] using sign_of_form l

theorem of_header {l name : Text} (h : LineForm.ofLine l = .header name) :
    opens l = true ∧ heading? l = some name ∧ name ≠ [] ∧ name.head? ≠ some '?' := by
  simpa only [h] using sign_of_form l

theorem of_definition {l : Text} {result : Except Fault Definition}
    (h : LineForm.ofLine l = .definition result) :
    opens l = true ∧ heading? l = none ∧ l.trim.head? = some '@' ∧
      ∃ declared, result = Definition.read declared := by
  simpa only [h] using sign_of_form l

theorem of_item {l content : Text} (h : LineForm.ofLine l = .item content) :
    opens l = false ∧ bullet? l = some content := by
  simpa only [h] using sign_of_form l

end LuServer.Line
