/-
# TOML documents

A document is a sequence of lines: blank lines, comments, headers, and keys with
their values.  A value can go over several lines.

* `Toml.value?`: the value at the start of a text.
* `Toml.parse?`: the table that a document writes, if it is one.
-/
import LuServer.Toml.Quoted
import LuServer.Toml.Scalar

namespace LuServer.Toml

/-! ## Keys -/

/-- Characters of a key without quotes. -/
def isBareChar (c : Char) : Bool :=
  c.isAlphanum || c == '_' || c == '-'

/-- A part of a key at the start of a text, and the rest. -/
def keyPart? (t : Text) : Option (Text × Text) :=
  match t.takeWhile isBareChar with
  | [] => oneLine? t
  | c :: name => some (c :: name, t.dropWhile isBareChar)

/-- Nesting goes less deep than this, for keys and for values. -/
def depthLimit : Nat :=
  80

/-- The parts of a key that has at most `fuel` of them, and the rest. -/
def keyParts? : Nat → Text → Option (List Text × Text)
  | 0, _ => none
  | fuel + 1, t => do
    let (name, rest) ← keyPart? t
    match rest.dropWhile isSpace with
    | '.' :: r =>
      let (names, rest) ← keyParts? fuel (r.dropWhile isSpace)
      return (name :: names, rest)
    | r => return ([name], r)

/-- A key at the start of a text: the names of the tables on its way, its last
name, and the rest. -/
def key? (t : Text) : Option ((List Text × Text) × Text) := do
  let (names, rest) ← keyParts? (depthLimit - 1) t
  let last ← names.getLast?
  return ((names.dropLast, last), rest)

/-! ## Values -/

/-- The rest after blanks, line breaks and comments; `inComment` says whether
the text starts within a comment. -/
def skipFiller (inComment : Bool) : Text → Text
  | '\r' :: '\n' :: r => skipFiller false r
  | c :: r =>
    if c = '\n' then skipFiller false r
    else if inComment then (if isPlain c then skipFiller true r else c :: r)
    else if isSpace c then skipFiller false r
    else if c = '#' then skipFiller true r
    else c :: r
  | [] => []

mutual

/-- The value at the start of a text, nested less deep than `depth`, and the
rest. -/
def value? (fuel depth : Nat) (t : Text) : Option (Node × Text) :=
  match fuel with
  | 0 => none
  | fuel + 1 =>
    match t with
    | '[' :: r =>
      if depth ≤ 1 then none
      else (items? fuel (depth - 1) (skipFiller false r)).map fun p => (.array p.1, p.2)
    | '{' :: r =>
      if depth ≤ 1 then none
      else match r.dropWhile isSpace with
        | '}' :: rest => some (.table .braces [], rest)
        | body => (pairs? fuel (depth - 1) [] body).map fun p => (.table .braces p.1, p.2)
    | '"' :: _ | '\'' :: _ => (string? t).map fun p => (.string p.1, p.2)
    | _ => scalar? t

/-- The rest of an array, from the place of an item on. -/
def items? (fuel depth : Nat) (t : Text) : Option (List Node × Text) :=
  match fuel with
  | 0 => none
  | fuel + 1 =>
    match t with
    | ']' :: r => some ([], r)
    | _ => do
      let (v, rest) ← value? fuel depth t
      match skipFiller false rest with
      | ',' :: r =>
        let (vs, rest) ← items? fuel depth (skipFiller false r)
        return (v :: vs, rest)
      | ']' :: r => return ([v], r)
      | _ => none

/-- The rest of an inline table, from the place of a key on; `es` are the
entries before. -/
def pairs? (fuel depth : Nat) (es : Entries) (t : Text) : Option (Entries × Text) :=
  match fuel with
  | 0 => none
  | fuel + 1 => do
    let ((path, name), rest) ← key? t
    let '=' :: r := rest | none
    let (v, rest) ← value? fuel depth (r.dropWhile isSpace)
    let next ← put v name path es
    match rest.dropWhile isSpace with
    | ',' :: r => pairs? fuel depth next (r.dropWhile isSpace)
    | '}' :: r => return (next, r)
    | _ => none

end

/-! ## Documents -/

/-- The rest after the end of a line: blanks, perhaps a comment, and a line
break or the end of the text. -/
def lineEnd? (t : Text) : Option Text :=
  let r := t.dropWhile isSpace
  let r := if r.head? = some '#' then r.dropWhile isPlain else r
  if r = [] then some [] else newline? r

/-- What has been read: the entries, and the path of the last header. -/
structure Reading where
  entries : Entries := []
  header : List Text := []

/-- The reading after a header, from what follows its bracket. -/
def readHeader? (s : Reading) (t : Text) : Option (Reading × Text) :=
  match t with
  | '[' :: r => do
    let ((path, name), rest) ← key? (r.dropWhile isSpace)
    let ']' :: ']' :: rest := rest | none
    let entries ← within (openElement name) path s.entries
    return (⟨entries, path ++ [name]⟩, rest)
  | _ => do
    let ((path, name), rest) ← key? (t.dropWhile isSpace)
    let ']' :: rest := rest | none
    let entries ← within (openTable name) path s.entries
    return (⟨entries, path ++ [name]⟩, rest)

/-- The reading after a key and its value. -/
def readPair? (s : Reading) (t : Text) : Option (Reading × Text) := do
  let ((path, name), rest) ← key? t
  let '=' :: r := rest | none
  let (v, rest) ← value? (r.length + 1) depthLimit (r.dropWhile isSpace)
  let entries ← within (put v name path) s.header s.entries
  return ({ s with entries }, rest)

/-- The reading after what stands on a line, if anything does. -/
def readLine? (s : Reading) (t : Text) : Option (Reading × Text) :=
  match t.dropWhile isSpace with
  | '[' :: r => readHeader? s r
  | r =>
    if r = [] ∨ r.head? = some '#' ∨ (newline? r).isSome = true then some (s, r)
    else readPair? s r

/-- The entries after the rest of a document. -/
def readLines? : Nat → Reading → Text → Option Entries
  | 0, _, _ => none
  | fuel + 1, s, t =>
    if t = [] then some s.entries
    else do
      let (next, rest) ← readLine? s t
      let rest ← lineEnd? rest
      readLines? fuel next rest

/-- The table that a document writes.  A byte order mark in front does not
count. -/
def parse? (t : Text) : Option Entries :=
  readLines? (t.length + 1) {} ((t.dropHead? '\uFEFF').getD t)

end LuServer.Toml
