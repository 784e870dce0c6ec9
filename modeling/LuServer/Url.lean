/-
# URLs

A URL names a resource.  What matters about one is whether it is well formed,
which scheme it has, and which path on this machine it stands for, if any.

* `Url.parse?`: the URL that a text writes.
* `Url.localPath?`: the path on this machine that a URL stands for.
* `Url.ofPath`: the URL of a local file.
-/
import LuServer.Files.Tree
import LuServer.Url.Host

namespace LuServer

/-- A URL. -/
structure Url where
  scheme : Text
  host : Option Host := none
  /-- The parts of a path that starts with a slash, as they are written. -/
  path : Option (List Text) := none
deriving DecidableEq, Repr

namespace Url

/-! ## Characters -/

/-- Tabs and line breaks do not count, wherever they are. -/
def isBreak (c : Char) : Bool :=
  c == '\t' || c == '\n' || c == '\r'

/-- A text without tabs and line breaks. -/
def unbroken (t : Text) : Text :=
  t.filter (!isBreak ·)

/-- The rest of a text after `n` characters, tabs and line breaks not
counted. -/
def skip : Nat → Text → Text
  | 0, t => t
  | _ + 1, [] => []
  | n + 1, c :: r => if isBreak c then skip (n + 1) r else skip n r

/-- A text without control characters and blanks at its ends. -/
def trimControls (t : Text) : Text :=
  let isEdge (c : Char) : Bool := c.toNat ≤ 0x20
  Text.dropWhileEnd isEdge (t.dropWhile isEdge)

/-- Slashes of either kind. -/
def isSlash (c : Char) : Bool :=
  c == '/' || c == '\\'

/-- Characters that end the path. -/
def endsPath (c : Char) : Bool :=
  c == '?' || c == '#'

/-- Slashes in a URL; the backward one is a slash under well-known schemes
only. -/
def isSlashIn (wellKnown : Bool) (c : Char) : Bool :=
  c == '/' || (wellKnown && c == '\\')

/-! ## Paths -/

/-- Whether a part of a path is the letter of a drive. -/
def isDrive (s : Text) : Bool :=
  match s with
  | [c, d] => c.isAlpha && (d == ':' || d == '|')
  | _ => false

/-- Whether a part of a path begins with the letter of a drive and ends there,
or goes on with a backward slash. -/
def startsWithDrive (s : Text) : Bool :=
  isDrive (s.take 2) && (s.drop 2).head?.all (· == '\\')

/-- Whether a part of a path stays where it is. -/
def isHere (s : Text) : Bool :=
  s == ['.'] || s.asciiLower == "%2e".toList

/-- Whether a part of a path goes up. -/
def isUp (s : Text) : Bool :=
  ["..", ".%2e", "%2e.", "%2e%2e"].any fun w => s.asciiLower == w.toList

/-- The path above a path.  There is none above a drive. -/
def above (done : List Text) : List Text :=
  if done.getLast?.any startsWithDrive then done else done.dropLast

/-- The letter of a drive, and what follows the tab or line break after it
within one part of a path. -/
def brokenDrive? (part : Text) : Option (Text × Text) :=
  match part.dropWhile isBreak with
  | [] => none
  | c :: r =>
    match r.dropWhile isBreak with
    | ':' :: b :: r =>
      if c.isAlpha && isBreak b && !(unbroken r).isEmpty then some ([c, ':'], unbroken r)
      else none
    | _ => none

/-- A path of a file with one more part.  In front the letter of a drive gets a
colon, and is a part of its own if a tab or line break follows it. -/
def goDown (isFile : Bool) (done : List Text) (part : Text) : List Text :=
  let s := unbroken part
  if isFile ∧ done = [] then
    if isDrive s then [s.take 1 ++ [':']]
    else match brokenDrive? part with
      | some (drive, rest) => [drive, rest]
      | none => [s]
  else done ++ [s]

/-- The path that parts lead to from `done` on.  The last part stands for a file,
or, if it names none, for the directory. -/
def walk (isFile : Bool) (done : List Text) : List Text → List Text
  | [] => done
  | [part] =>
    let s := unbroken part
    if isHere s then done ++ [[]]
    else if isUp s then above done ++ [[]]
    else goDown isFile done part
  | part :: rest =>
    let s := unbroken part
    if isHere s then walk isFile done rest
    else if isUp s then walk isFile (above done) rest
    else walk isFile (goDown isFile done part) rest

/-- The path at the start of a text, from the root on. -/
def pathOf (isFile wellKnown : Bool) (t : Text) : List Text :=
  walk isFile [] ((t.takeWhile (!endsPath ·)).splitOnP (isSlashIn wellKnown))

/-! ## Files -/

/-- A path without the empty parts in front. -/
def withoutEmpty (path : List Text) : List Text :=
  match path.dropWhile (·.isEmpty) with
  | [] => [[]]
  | rest => rest

/-- The scheme of files. -/
def fileScheme : Text :=
  "file".toList

/-- The name of this machine. -/
def thisHost : Host :=
  .domain "localhost".toList

/-- The file whose path a text starts with; `host` does not count if the path
starts with a drive. -/
def fileAt (host : Option Host) (t : Text) : Url :=
  let path := pathOf true true t
  { scheme := fileScheme
    host := if path.head?.any isDrive then none else host
    path := some (withoutEmpty path) }

/-- The rest of a text after a slash, if it starts with one. -/
def afterSlash (t : Text) : Text :=
  if (unbroken t).head?.any isSlash then skip 1 t else t

/-- The file that the text after `file:` names.  Without a host all slashes
after the first two are part of the path. -/
def file? (t : Text) : Option Url :=
  let s := unbroken t
  if (s.take 2).length = 2 ∧ (s.take 2).all isSlash = true then
    let name := (s.drop 2).takeWhile fun c => !isSlash c && !endsPath c
    if name = [] ∨ isDrive name = true then some (fileAt none (skip 2 t))
    else do
      let host ← strictHost? name
      let rest := skip (2 + name.length) t
      some (if host = thisHost then fileAt none rest else fileAt (some host) (afterSlash rest))
  else some (fileAt none (afterSlash t))

/-! ## Authorities -/

/-- Whether a character ends the authority. -/
def endsAuthority (wellKnown : Bool) (c : Char) : Bool :=
  isSlashIn wellKnown c || endsPath c

/-- The text before the last `@`, and the text after it. -/
def cutAtLast (t : Text) : Option (Text × Text) :=
  (Text.cutAt '@' t.reverse).map fun p => (p.2.reverse, p.1.reverse)

/-- The text after a user and a password, and whether there are any.  A text
that ends the authority cannot follow an `@` without a user. -/
def afterUser? (wellKnown : Bool) (t : Text) : Option (Text × Bool) :=
  match cutAtLast (t.takeWhile (!endsAuthority wellKnown ·)) with
  | none => some (t, false)
  | some (user, _) =>
    let rest := t.drop (user.length + 1)
    if user = [] ∧ rest.head?.any (endsAuthority wellKnown) = true then none
    else some (rest, user ≠ [] ∧ user ≠ [':'])

/-- The text of the host in front of a text; `inside` says whether it starts
between brackets, where a colon does not end it. -/
def hostText (wellKnown inside : Bool) : Text → Text
  | [] => []
  | c :: r =>
    if endsAuthority wellKnown c || (c == ':' && !inside) then []
    else c :: hostText wellKnown (c == '[' || (inside && c != ']')) r

/-- The host in front of a text, if there is one, and the rest.  Under the
well-known schemes there has to be one. -/
def host? (wellKnown : Bool) (t : Text) : Option (Option Host × Text) :=
  let name := hostText wellKnown false t
  let rest := t.drop name.length
  if name = [] then (if wellKnown || rest.head? == some ':' then none else some (none, rest))
  else (if wellKnown then strictHost? name else looseHost? name).map fun h => (some h, rest)

/-- The rest after the number of a service, which has 16 bits. -/
def afterService? (t : Text) : Option Text :=
  match t.dropHead? ':' with
  | none => some t
  | some r =>
    let number := r.takeWhile Char.isDigit
    let rest := r.drop number.length
    if Text.ofDigits 10 number ≤ 65535 ∧ rest.head?.all (fun c => isSlash c || endsPath c) = true
    then some rest
    else none

/-- The URL with an authority in front of a text. -/
def withAuthority? (scheme : Text) (wellKnown : Bool) (t : Text) : Option Url := do
  let (rest, hasUser) ← afterUser? wellKnown t
  let (host, rest) ← host? wellKnown rest
  if host = none ∧ hasUser then none
  else
    let rest ← afterService? rest
    let isEmpty := !wellKnown && rest.head?.all endsPath
    let start := if rest.head?.any (isSlashIn wellKnown) then rest.drop 1 else rest
    some { scheme, host, path := if isEmpty then none else some (pathOf false wellKnown start) }

/-! ## URLs -/

/-- The scheme in lower case, and what follows its colon. -/
def scheme? (t : Text) : Option (Text × Text) :=
  let isInner (c : Char) : Bool := c.isAlphanum || c == '+' || c == '-' || c == '.'
  match t.takeWhile isInner, t.dropWhile isInner with
  | c :: name, ':' :: rest =>
    if c.isAlpha then some (Text.asciiLower (c :: name), rest) else none
  | _, _ => none

/-- The well-known schemes whose URLs always have a host. -/
def hostedSchemes : List Text :=
  ["http", "https", "ws", "wss", "ftp"].map String.toList

/-- The URL that a text writes. -/
def parse? (t : Text) : Option Url := do
  let whole := trimControls t
  let (scheme, rest) ← scheme? (unbroken whole)
  if scheme = fileScheme then file? (skip (scheme.length + 1) whole)
  else if hostedSchemes.contains scheme then
    withAuthority? scheme true (rest.dropWhile isSlash)
  else match rest with
    | '/' :: '/' :: r => withAuthority? scheme false r
    | '/' :: r => some { scheme, path := some (pathOf false false r) }
    | _ => some { scheme }

/-! ## Local paths -/

/-- Whether bytes end like the letter of a drive. -/
def endsInDrive (bytes : List UInt8) : Bool :=
  match bytes.reverse with
  | d :: c :: _ :: _ =>
    (d == 0x3A || d == 0x7C) && (Char.ofUInt8 c).isAlpha
  | _ => false

/-- The path on this machine that a URL stands for, as bytes.  A path that ends
like the letter of a drive is that of a directory. -/
def localPath? (u : Url) : Option (List UInt8) :=
  if u.host = none ∨ u.host = some thisHost then
    u.path.map fun parts =>
      let bytes := parts.flatMap fun s => 0x2F :: percentDecode s
      if endsInDrive bytes then bytes ++ [0x2F] else bytes
  else none

/-- Bytes that stand in a URL as the ASCII characters they are. -/
def isPlainByte (b : UInt8) : Bool :=
  0x21 ≤ b.toNat && b.toNat ≤ 0x7E
    && !"\"#%/<>?\\^`\x7b\x7d".toList.contains (Char.ofUInt8 b)

/-- A byte as it stands in a URL, if need be as `%` and two hexadecimal digits. -/
def percentEncode (b : UInt8) : Text :=
  if isPlainByte b then [Char.ofUInt8 b]
  else ['%', Nat.digitChar (b.toNat / 16), Nat.digitChar (b.toNat % 16)]

/-- The URL of a local file. -/
def ofPath (p : Path) : Url :=
  fileAt none (p.flatMap fun name => '/' :: name.flatMap percentEncode)

end Url

end LuServer
