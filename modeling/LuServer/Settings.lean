/-
# Settings

A settings file names the culture that documents are read in and how long a
document has to be quiet before it is validated.  It is looked for from a
directory upwards, then in the directories directly below it.

The format of the file is that of a library: what reads and looks for settings takes what
decodes a text as a parameter, and the server has `Settings.decode?` for it.

* `Settings.decode?`: the settings that a file's text gives.
* `Settings.loadWith`, `Settings.load`: the settings of a file.
* `Settings.discoverWith`, `Settings.discover`: the settings for a directory, and where they are
  from.
-/
import LuServer.Files.Tree
import LuServer.Toml.Document

namespace LuServer

/-- The settings of a workspace. -/
structure Settings where
  /-- The culture that documents are read in. -/
  locale : Text := "en-us".toList
  /-- The quiet time before a validation, in milliseconds. -/
  debounce : Nat := 200
deriving DecidableEq, Repr

namespace Settings

/-- The name of a settings file. -/
def fileName : FileName :=
  Text.toBytes "lusp.toml".toList

/-- The settings for which there is no file, or none that can be used. -/
def standard : Settings :=
  {}

/-- A number of milliseconds. -/
def duration? : Toml.Node → Option Nat
  | .integer (.ofNat n) => some n
  | _ => none

/-- The quiet time in a value for `validation`: a table with `debounce_ms`, or an
array with that number in front.  A date says nothing about it. -/
def debounce? : Toml.Node → Option Nat
  | .table _ entries =>
    match entries.lookup "debounce_ms".toList with
    | none => some standard.debounce
    | some v => duration? v
  | .array [] => some standard.debounce
  | .array (v :: _) => duration? v
  | .datetime _ => some standard.debounce
  | _ => none

/-- The culture in a value for `locale`. -/
def locale? : Toml.Node → Option Text
  | .string s => some s
  | _ => none

/-- The settings in a table; what it does not have is standard. -/
def ofEntries? (entries : Toml.Entries) : Option Settings := do
  let locale ← match entries.lookup "locale".toList with
    | none => some standard.locale
    | some v => locale? v
  let debounce ← match entries.lookup "validation".toList with
    | none => some standard.debounce
    | some v => debounce? v
  return { locale, debounce }

/-- The settings that a file's text gives, if it is usable. -/
def decode? (t : Text) : Option Settings :=
  (Toml.parse? t).bind ofEntries?

/-- The settings of the file that steps from the root lead to, where `decode` tells what a text
gives; the standard ones if it is no text or not usable. -/
def loadWith (decode : Text → Option Settings) (tree : FileTree) (steps : List FileName) :
    Settings :=
  match tree.readText steps with
  | .ok text => (decode text).getD standard
  | .error _ => standard

/-- The settings of the file that steps from the root lead to. -/
def load : FileTree → List FileName → Settings :=
  loadWith decode?

/-- The settings file of a directory, as steps from the root. -/
def filePath (dir : Path) : List FileName :=
  Path.fromRoot (dir ++ [fileName])

/-- Whether a directory has a settings file. -/
def isIn (tree : FileTree) (dir : Path) : Bool :=
  match tree.locate (filePath dir) with
  | .ok p => tree.isFile p
  | .error _ => false

/-- The directory itself, the one above it, and so on up to the root. -/
def ancestors (dir : Path) : List Path :=
  (List.range (dir.length + 1)).map fun n => dir.take (dir.length - n)

/-- The directories directly below a directory. -/
def below (tree : FileTree) (dir : Path) : List Path :=
  match tree.locate (Path.fromRoot dir) with
  | .ok p => (tree.subdirectories p).map fun q => dir ++ q.drop p.length
  | .error _ => []

/-- The settings for a directory and the directory they are from: the nearest
one upwards with a settings file, else one directly below, else the directory
itself with the standard settings. -/
def discoverWith (decode : Text → Option Settings) (tree : FileTree) (dir : Path) :
    Settings × Path :=
  match (ancestors dir ++ below tree dir).find? (isIn tree) with
  | some found => (loadWith decode tree (filePath found), found)
  | none => (standard, dir)

/-- The settings for a directory and the directory they are from. -/
def discover : FileTree → Path → Settings × Path :=
  discoverWith decode?

end Settings

end LuServer
