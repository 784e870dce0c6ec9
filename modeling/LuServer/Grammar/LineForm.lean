/-
# Forms of lines

What one line of an LU document is, as far as the line alone tells.  Comments,
blank lines and import links are inert.  Only bullets and bodies need to know
what stands above them.

* `LineForm.ofLine`: the form of a line.
-/
import LuServer.Grammar.Definition

namespace LuServer

/-- The form of a line. -/
inductive LineForm where
  /-- A blank line, a comment or an import. -/
  | inert
  /-- A header that opens an intent. -/
  | header (name : Text)
  /-- A line that starts with `@`.  It ends the block above it even if it cannot
  be read. -/
  | definition (result : Except Fault Definition)
  /-- A bullet. -/
  | item (content : Text)
  /-- A line that is rejected and changes nothing. -/
  | rejected (fault : Fault)

namespace LineForm

/-- Whether a text is an import: a link with its title in brackets and its
target in parentheses. -/
def isImport (t : Text) : Bool :=
  match t with
  | '[' :: r =>
    match r.dropWhile (· ≠ ']') with
    | ']' :: '(' :: target => target.dropWhile (· ≠ ')') == [')']
    | _ => false
  | _ => false

/-- The form of a header, from what follows its first `#`. -/
def ofHeader (rest : Text) : LineForm :=
  let name := Text.trim (rest.dropWhile (· == '#'))
  if name = [] then rejected .missingIntentName
  else if name.head? = some '?' then rejected (.questionHeader name)
  else header name

/-- The form of a definition, from what follows its `@`. -/
def ofDefinition (rest : Text) : LineForm :=
  let declared := rest.trim
  if declared = [] then rejected .emptyDefinition
  else definition (Definition.read declared)

/-- The form of a line. -/
def ofLine (line : Text) : LineForm :=
  match line.trim with
  | [] => inert
  | c :: rest =>
    if c = '>' then inert
    else if c = '#' then ofHeader rest
    else if c = '@' then ofDefinition rest
    else if c = '-' ∨ c = '*' ∨ c = '+' then item (Text.trim rest)
    else if isImport (c :: rest) then inert
    else rejected (.unrecognizedLine (c :: rest))

end LineForm

end LuServer
