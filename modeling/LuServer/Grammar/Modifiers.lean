/-
# Modifiers

After its name a definition can say which roles the entity has and which
features it uses: clauses that begin with `hasRole(s)` or `usesFeature(s)`, in
any letter case, and list names.

* `Modifiers.keyword?`: the keyword at the start of a text.
* `Modifiers.clauses`: a text cut before each keyword.
* `Modifiers.read`: the roles and features that the clauses list.
-/
import LuServer.Grammar.Name

namespace LuServer

/-- Roles and features given to an entity. -/
structure Modifiers where
  roles : List Text := []
  features : List Text := []
deriving DecidableEq, Repr, Inhabited

/-- A keyword as it is written and the text up to the next keyword. -/
structure Clause where
  word : Text
  body : Text
deriving DecidableEq, Repr

namespace Modifiers

/-- Whether nothing is given. -/
def isEmpty (m : Modifiers) : Bool :=
  m.roles.isEmpty && m.features.isEmpty

/-- Whether `c` is the lower-case letter `a` up to case.  The long s is a form
of the letter s. -/
def sameLetter (a c : Char) : Bool :=
  c.toLower == a || (a == 's' && c == 'ſ')

/-- The letters of `p` up to case at the start of a text, as they are written
there, and the rest. -/
def letters? : Text → Text → Option (Text × Text)
  | [], t => some ([], t)
  | _ :: _, [] => none
  | a :: p, c :: t =>
    if sameLetter a c then (letters? p t).map fun r => (c :: r.1, r.2) else none

/-- Whether a word can end before this text. -/
def wordEnds : Text → Bool
  | [] => true
  | c :: _ => !Text.isWord c

/-- The letters of `stem`, and an s if one follows, provided a word ends
there. -/
def plural? (stem t : Text) : Option Text :=
  match letters? stem t with
  | none => none
  | some (w, []) => some w
  | some (w, c :: rest) =>
    if sameLetter 's' c then (if wordEnds rest then some (w ++ [c]) else none)
    else if wordEnds (c :: rest) then some w else none

/-- The keyword at the start of a text, as it is written. -/
def keyword? (t : Text) : Option Text :=
  (plural? "hasrole".toList t).or (plural? "usesfeature".toList t)

/-- The text before the first keyword and the clauses from there on.  A keyword
is a word of its own; `inWord` says whether the text continues a word. -/
def clauses (inWord : Bool) : Text → Text × List Clause
  | [] => ([], [])
  | c :: rest =>
    let (lead, cs) := clauses (Text.isWord c) rest
    match if inWord then none else keyword? (c :: rest) with
    | some w => ([], ⟨w, (c :: lead).drop w.length⟩ :: cs)
    | none => (c :: lead, cs)

/-- Whether a keyword stands somewhere in a text. -/
def occursIn (t : Text) : Bool :=
  !(clauses false t).2.isEmpty

/-- Whether a keyword introduces roles.  One spelled with a long s does not. -/
def isRoleWord (w : Text) : Bool :=
  "hasrole".toList.isPrefixOf w.asciiLower

/-- The modifiers after one more clause. -/
def add (m : Modifiers) (c : Clause) : Except Fault Modifiers :=
  let names := c.body.items
  if names = [] then .error (.emptyModifier c.word)
  else if isRoleWord c.word then .ok { m with roles := m.roles ++ names }
  else .ok { m with features := m.features ++ names }

/-- The modifiers that a text consists of. -/
def read (t : Text) : Except Fault Modifiers :=
  let (lead, cs) := clauses false t.trim
  if lead ≠ [] then .error (.unexpectedWords lead.trim)
  else cs.foldlM add {}

end Modifiers

end LuServer
