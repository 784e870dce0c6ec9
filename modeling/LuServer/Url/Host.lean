/-
# Hosts

The host of a URL is an address in brackets, an address of four numbers, or a
name.  URLs of the well-known schemes are strict about names; in others a host
is any text without delimiters.

* `Url.isIpv6`, `Url.isIpv4`: addresses.
* `Url.strictHost?`: the host that a text names under a well-known scheme.
* `Url.looseHost?`: the host that a text names under any other scheme.
-/
import LuServer.Text.Utf8
import LuServer.Url.Domain

namespace LuServer

/-- A host. -/
inductive Host where
  | domain (name : Text)
  /-- An address; which one it is does not matter. -/
  | address
deriving DecidableEq, Repr

namespace Url

/-! ## Percent encoding -/

/-- The bytes of a text in which `%` and two hexadecimal digits stand for a
byte. -/
def percentDecode : Text → List UInt8
  | '%' :: a :: b :: r =>
    if Text.isHex a && Text.isHex b then
      UInt8.ofNat (Text.ofDigits 16 [a, b]) :: percentDecode r
    else String.utf8EncodeChar '%' ++ percentDecode (a :: b :: r)
  | c :: r => String.utf8EncodeChar c ++ percentDecode r
  | [] => []

/-! ## Addresses -/

/-- Whether a text is one of the four numbers of an address, in decimal. -/
def isOctet (t : Text) : Bool :=
  match t with
  | [] => false
  | '0' :: _ :: _ => false
  | _ => t.length ≤ 3 && t.all Char.isDigit && Text.ofDigits 10 t ≤ 255

/-- Whether a text is a group of an address in brackets. -/
def isGroup (t : Text) : Bool :=
  1 ≤ t.length && t.length ≤ 4 && t.all Text.isHex

/-- The number of groups that some parts of an address make, if they are
groups; where `last` holds the last can be an address of four numbers. -/
def groupCount? (last : Bool) : List Text → Option Nat
  | [] => some 0
  | [g] =>
    if isGroup g then some 1
    else if last && (g.splitOn '.').length == 4 && (g.splitOn '.').all isOctet then some 2
    else none
  | g :: gs => if isGroup g then (groupCount? last gs).map (· + 1) else none

/-- The parts of a stretch of an address; an empty stretch has none. -/
def groups (t : Text) : List Text :=
  if t = [] then [] else t.splitOn ':'

/-- The stretches before and after the first two colons in a row. -/
def cutAtGap : Text → Option (Text × Text)
  | ':' :: ':' :: r => some ([], r)
  | c :: r => (cutAtGap r).map fun p => (c :: p.1, p.2)
  | [] => none

/-- Whether a text is an address of eight groups; one gap can stand for the
groups that are zero. -/
def isIpv6 (t : Text) : Bool :=
  match cutAtGap t with
  | none => groupCount? true (groups t) == some 8
  | some (a, b) =>
    match groupCount? false (groups a), groupCount? true (groups b) with
    | some m, some n => m + n ≤ 7
    | _, _ => false

/-- The number that a part of an address writes in decimal, octal or
hexadecimal. -/
def number? (t : Text) : Option Nat :=
  let ofBase (base : Nat) (ds : Text) : Option Nat :=
    if ds.all fun c => Text.isHex c && Text.digitValue c < base then
      some (Text.ofDigits base ds)
    else none
  match t with
  | [] => none
  | '0' :: 'x' :: ds | '0' :: 'X' :: ds => ofBase 16 ds
  | '0' :: c :: ds => ofBase 8 (c :: ds)
  | _ => ofBase 10 t

/-- The parts of a name, without an empty one at its end. -/
def labels (t : Text) : List Text :=
  let ls := t.splitOn '.'
  if 1 < ls.length && ls.getLast? == some [] then ls.dropLast else ls

/-- Whether a name ends in a number and so has to be an address. -/
def endsInNumber (t : Text) : Bool :=
  match (labels t).getLast? with
  | none => false
  | some l =>
    (!l.isEmpty && l.all Char.isDigit)
      || ("0x".toList.isPrefixOf l.asciiLower && (number? l).isSome)

/-- Whether a name is an address of at most four numbers. -/
def isIpv4 (t : Text) : Bool :=
  let ls := labels t
  match ls.mapM number? with
  | none => false
  | some ns =>
    ns.length ≤ 4 && ns.dropLast.all (· ≤ 255)
      && ns.getLast?.any fun n => n < Nat.pow 256 (5 - ns.length)

/-- The address in brackets that a text is. -/
def bracketed? (t : Text) : Option Host :=
  (t.between? '[' ']').bind fun address => if isIpv6 address then some .address else none

/-! ## Hosts -/

/-- The host that a text names under a well-known scheme. -/
def strictHost? (t : Text) : Option Host :=
  if t.head? = some '[' then bracketed? t
  else do
    let name ← Domain.normal? (← Text.ofBytes? (percentDecode t))
    if name = [] then none
    else if endsInNumber name then (if isIpv4 name then some .address else none)
    else some (.domain name)

/-- Delimiters that no host can have. -/
def isDelimiter (c : Char) : Bool :=
  "\x00\t\n\r #/:<>?@[\\]^|".toList.contains c

/-- The host that a text names under any other scheme. -/
def looseHost? (t : Text) : Option Host :=
  if t.head? = some '[' then bracketed? t
  else if t.any isDelimiter then none
  else some (.domain t)

end Url

end LuServer
