/-
# Slots

What can be suggested depends on where the caret stands.  A slot is such a
place, recognised from the text of the line before the caret.

* `Slot.isKind`, `Slot.isPrebuilt`, `Slot.isPattern`, …: one recogniser for each
  slot.
* `Slot.separatedName?`, `Slot.featureOwner?`: slots that belong to a name.
* `Slot.mlName?`, `Slot.mlDeclared?`: the names of ml entities on a whole line.
-/
import LuServer.Text.Cut
import LuServer.Text.Word

namespace LuServer.Slot

/-! ## Parts of a line -/

/-- Whether a text is blank. -/
def isBlank (t : Text) : Bool :=
  t.all Text.isBlank

/-- Whether a text is blank and not empty. -/
def isGap (t : Text) : Bool :=
  !t.isEmpty && isBlank t

/-- The text after `@` and blanks, on a line that starts with `@`. -/
def afterAt? (line : Text) : Option Text :=
  (line.trimStart.dropHead? '@').map Text.trimStart

/-- The text after the bullet, on a line that starts with one. -/
def afterBullet? (line : Text) : Option Text :=
  line.trimStart.dropHead? '-'

/-- The text after at least one blank. -/
def afterGap? : Text → Option Text
  | [] => none
  | c :: rest => if Text.isBlank c then some (Text.trimStart rest) else none

/-- The text after a word and the blanks that follow it. -/
def afterWord? (word t : Text) : Option Text :=
  (t.dropStart? word).bind afterGap?

/-- The keywords of kinds that slots know, in lower case only. -/
def kindWords : List Text :=
  ["ml", "simple", "list", "composite", "regex", "prebuilt", "pattern.any",
    "phraselist"].map String.toList

/-- The text after the keyword of a kind and the blanks that follow it. -/
def afterKind? (t : Text) : Option Text :=
  if kindWords.contains (t.takeWhile (!Text.isBlank ·)) then
    afterGap? (t.dropWhile (!Text.isBlank ·))
  else none

/-- A name as it is written at the start of a text, quoted or not, and the
rest. -/
def name? (t : Text) : Option (Text × Text) :=
  match t with
  | '"' :: quoted =>
    let inside (c : Char) : Bool := Text.isDotted c || Text.isBlank c
    match quoted.takeWhile inside, quoted.dropWhile inside with
    | c :: name, '"' :: rest => some ('"' :: c :: name ++ ['"'], rest)
    | _, _ => none
  | _ =>
    match t.takeWhile Text.isDotted with
    | [] => none
    | c :: name => some (c :: name, t.dropWhile Text.isDotted)

/-- The text after a name. -/
def afterName? (t : Text) : Option Text :=
  (name? t).map Prod.snd

/-- The text after blanks and an equals sign. -/
def afterEquals? (t : Text) : Option Text :=
  t.trimStart.dropHead? '='

/-! ## Lists of features -/

/-- Where a list of features stands. -/
inductive ListPlace where
  /-- A feature can start. -/
  | fresh
  /-- Inside a feature. -/
  | inside
  /-- After a feature, before its comma. -/
  | after
deriving DecidableEq, Repr

/-- Whether a text is a list of features each of which has its comma. -/
def isOpenList : ListPlace → Text → Bool
  | place, [] => place = .fresh
  | .fresh, c :: rest =>
    if Text.isBlank c then isOpenList .fresh rest
    else Text.isDotted c && isOpenList .inside rest
  | .inside, c :: rest =>
    if Text.isDotted c then isOpenList .inside rest
    else if c = ',' then isOpenList .fresh rest
    else Text.isBlank c && isOpenList .after rest
  | .after, c :: rest =>
    if c = ',' then isOpenList .fresh rest else Text.isBlank c && isOpenList .after rest

/-- A text without a leading s. -/
def dropPlural (t : Text) : Text :=
  (t.dropHead? 's').getD t

/-- Whether a text is `usesFeature` or `usesFeatures` and an open list. -/
def awaitsFeature (t : Text) : Bool :=
  match t.dropStart? "usesFeature".toList with
  | none => false
  | some rest => (afterGap? (dropPlural rest)).any (isOpenList .fresh)

/-- Whether some end of a text, after a blank, awaits a feature; `gap` says
whether a blank stands before the text. -/
def endsAwaiting (gap : Bool) : Text → Bool
  | [] => false
  | c :: rest => gap && awaitsFeature (c :: rest) || endsAwaiting (Text.isBlank c) rest

/-- The name at the start of a text that goes on, after a blank, to await a
feature. -/
def ownerAt? (t : Text) : Option Text :=
  match name? t with
  | none => none
  | some (name, rest) =>
    if rest.head?.any Text.isBlank && endsAwaiting false rest then some name else none

/-! ## The slots -/

/-- `@ `: a kind can stand here. -/
def isKind (line : Text) : Bool :=
  (afterAt? line).any (·.isEmpty)

/-- `@ prebuilt `: the name of a prebuilt entity can stand here. -/
def isPrebuilt (line : Text) : Bool :=
  ((afterAt? line).bind (·.dropStart? "prebuilt".toList)).any isGap

/-- `@ regex name = `: a pattern can stand here. -/
def isRegexBody (line : Text) : Bool :=
  ((((afterAt? line).bind (afterWord? "regex".toList)).bind afterName?).bind afterEquals?).any
    isBlank

/-- `@ ml name `: a modifier can stand here. -/
def isModifier (line : Text) : Bool :=
  (((afterAt? line).bind afterKind?).bind afterName?).any isGap

/-- `@ name = `: the name that is defined elsewhere. -/
def separatedName? (line : Text) : Option Text :=
  match (afterAt? line).bind name? with
  | none => none
  | some (name, rest) => if (afterEquals? rest).any isBlank then some name.unquote else none

/-- The reverse of a text without a closing brace and blanks at its end. -/
def beforeBrace (t : Text) : Text :=
  let r : Text := t.reverse
  ((r.dropHead? '}').getD r).trimStart

/-- `- book a {`: an entity can be mentioned here. -/
def isPattern (line : Text) : Bool :=
  (afterBullet? line).any fun rest => (beforeBrace rest).head? = some '{'

/-- `@ composite name = [a, `: a part can stand here. -/
def isPart (line : Text) : Bool :=
  ((((afterAt? line).bind (afterWord? "composite".toList)).bind afterName?).bind
    afterEquals?).any fun rest => (rest.trimStart.dropHead? '[').any (!·.contains ']')

/-- `- fly from {city:`: a role can stand here. -/
def isRole (line : Text) : Bool :=
  (afterBullet? line).any fun rest =>
    ((beforeBrace rest).dropHead? ':').any fun t =>
      (t.dropWhile fun c => c ≠ '{' ∧ c ≠ '}' ∧ c ≠ '=').head? = some '{'

/-- `- @`: a child can be named here. -/
def isChild (line : Text) : Bool :=
  (afterBullet? line).any fun rest => rest.trimStart = ['@']

/-- `@ ml name usesFeature `: the entity that gets a feature.  A first word that
is the keyword of a kind is the name only if no other can be. -/
def featureOwner? (line : Text) : Option Text :=
  match afterAt? line with
  | none => none
  | some t =>
    let owner := (((afterKind? t).bind ownerAt?).or (ownerAt? t)).map Text.unquote
    owner.filter (· ≠ "intent".toList)

/-- `@ intent name `: the modifier of an intent can stand here. -/
def isIntentModifier (line : Text) : Bool :=
  (((afterAt? line).bind (afterWord? "intent".toList)).bind afterName?).any isGap

/-- `@ intent name usesFeature `: a feature of an intent can stand here. -/
def isIntentFeature (line : Text) : Bool :=
  ((((afterAt? line).bind (afterWord? "intent".toList)).bind afterName?).bind afterGap?).any
    awaitsFeature

/-! ## Names of ml entities -/

/-- Characters of a plain name: ASCII letters and digits, `_`, `.` and `-`. -/
def isPlainChar (c : Char) : Bool :=
  c.isAlphanum || c == '_' || c == '.' || c == '-'

/-- The plain name at the start of a text. -/
def plainName? (t : Text) : Option Text :=
  match t.takeWhile isPlainChar with
  | [] => none
  | name => some name

/-- `@ ml name` or `@ name`: the name that a line defines. -/
def mlName? (line : Text) : Option Text :=
  (afterAt? line).bind fun t =>
    ((afterWord? "ml".toList t).bind plainName?).or (plainName? t)

/-- `@ ml name` or `@ simple name`: the name that a line declares as an ml
entity. -/
def mlDeclared? (line : Text) : Option Text :=
  (afterAt? line).bind fun t =>
    ((afterWord? "ml".toList t).or (afterWord? "simple".toList t)).bind plainName?

end LuServer.Slot
