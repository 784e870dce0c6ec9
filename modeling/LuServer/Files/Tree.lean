/-
# File trees

The files that the server can read, as a value: entries at paths from the root
directory.  A directory is there when it is listed or when something lies below
it.

* `Path.ofBytes`: the path that is written as one string of bytes.
* `FileTree.entry?`: what is at a path.
* `FileTree.resolve`, `FileTree.locate`: what a written path leads to.
* `FileTree.readText`: the text of a file.
* `FileTree.subdirectories`: the directories in a directory.
-/
import LuServer.Model.Basic
import LuServer.Text.Utf8

namespace LuServer

/-- The name of a file or directory, as bytes; most names are texts, but they
need not be. -/
abbrev FileName := List UInt8

/-- A path from the root directory, as the names along it. -/
abbrev Path := List FileName

/-- What is at a path. -/
inductive FileEntry where
  | file (bytes : List UInt8)
  | directory
deriving DecidableEq, Repr

/-- The entries of a file system. -/
structure FileTree where
  entries : List (Path × FileEntry) := []
deriving Repr

/-- Why a file cannot be read. -/
inductive FileFault where
  | missing
  | isDirectory
  /-- A step of the path leads through something that is no directory. -/
  | notDirectory
  /-- The bytes of the file are no text. -/
  | notText
  /-- The path has a zero byte in it. -/
  | zeroByte
  /-- The path or one of its names is too long. -/
  | tooLong
deriving DecidableEq, Repr

namespace FileFault

/-- The wording of a fault. -/
def message : FileFault → String
  | missing => "No such file or directory (os error 2)"
  | isDirectory => "Is a directory (os error 21)"
  | notDirectory => "Not a directory (os error 20)"
  | notText => "stream did not contain valid UTF-8"
  | zeroByte => "file name contained an unexpected NUL byte"
  | tooLong => "File name too long (os error 36)"

end FileFault

namespace Path

/-- The name that stays in a directory. -/
def here : FileName :=
  [0x2E]

/-- The name that leads to the directory above. -/
def up : FileName :=
  [0x2E, 0x2E]

/-- The names along a path that is written as one string of bytes, with slashes
between them. -/
def steps (bytes : List UInt8) : List FileName :=
  bytes.splitOn 0x2F

/-- The path that is written as one string of bytes. -/
def ofBytes (bytes : List UInt8) : Path :=
  (steps bytes).filter fun step => step ≠ [] ∧ step ≠ here

/-- The steps of a path as it is written from the root, with its leading slash. -/
def fromRoot (p : Path) : List FileName :=
  [] :: p

/-- The bytes of a path that is written with slashes between its names. -/
def size : List FileName → Nat
  | [] => 0
  | [name] => name.length
  | name :: rest => name.length + 1 + size rest

/-- A written path is shorter than this. -/
def sizeLimit : Nat :=
  4096

/-- A name is not longer than this. -/
def longestName : Nat :=
  255

end Path

namespace FileTree

/-- What is at a path.  The root and whatever something lies below are
directories. -/
def entry? (t : FileTree) (p : Path) : Option FileEntry :=
  match t.entries.lookup p with
  | some e => some e
  | none =>
    if p = [] ∨ t.entries.any (fun e => p.isPrefixOf e.1) = true then some .directory else none

/-- Whether a regular file is at a path. -/
def isFile (t : FileTree) (p : Path) : Bool :=
  match t.entry? p with
  | some (.file _) => true
  | _ => false

/-- The path that steps from directory to directory lead to: a period stays, two
go up, any other name goes down. -/
def resolve (t : FileTree) (here : Path) : List FileName → Except FileFault Path
  | [] => .ok here
  | step :: rest =>
    if t.entry? here ≠ some .directory then .error .notDirectory
    else if step = [] ∨ step = Path.here then t.resolve here rest
    else if step = Path.up then t.resolve here.dropLast rest
    else if Path.longestName < step.length then .error .tooLong
    else if (t.entry? (here ++ [step])).isSome then t.resolve (here ++ [step]) rest
    else .error .missing

/-- The path that steps from the root lead to, if they can be looked up at all. -/
def locate (t : FileTree) (steps : List FileName) : Except FileFault Path :=
  if steps.any (·.contains 0) then .error .zeroByte
  else if Path.sizeLimit ≤ Path.size steps then .error .tooLong
  else t.resolve [] steps

/-- The text of the file that steps from the root lead to. -/
def readText (t : FileTree) (steps : List FileName) : Except FileFault Text := do
  let p ← t.locate steps
  match t.entry? p with
  | some (.file bytes) =>
    match Text.ofBytes? bytes with
    | some text => .ok text
    | none => .error .notText
  | some .directory => .error .isDirectory
  | none => .error .missing

/-- The names in a directory, in the order of the entries. -/
def children (t : FileTree) (dir : Path) : List FileName :=
  appendNew [] (t.entries.filterMap fun e =>
    if dir.isPrefixOf e.1 then e.1[dir.length]? else none)

/-- The directories in a directory. -/
def subdirectories (t : FileTree) (dir : Path) : List Path :=
  ((t.children dir).map (dir ++ [·])).filter fun p => t.entry? p = some .directory

end FileTree

end LuServer
