/-
# Remembered line modes

The mode at line `n` depends only on the lines before `n`.  A cache holds the
mode at every line of a text and at the place after the last one; for a new
version of the text it keeps what stands above the first changed line and reads
only the rest again.

* `ModeCache.ofText`: the modes of a text.
* `ModeCache.update`: the modes of the next version of a text.
* `ModeCache.modeAt`: the mode at a line.
* `ModeCache.versions`: the caches along a chain of texts.
-/
import LuServer.Mode

namespace LuServer

/-- The modes at the lines of a text; entry `n` belongs to the place before
line `n`. -/
structure ModeCache where
  modes : List Mode
deriving DecidableEq, Repr

namespace ModeCache

/-- The modes after each line of `ls`, read from mode `m` on. -/
def modesAfter (m : Mode) : List Text → List Mode
  | [] => []
  | l :: ls => m.advance l :: modesAfter (m.advance l) ls

/-- The cache of no text at all. -/
def empty : ModeCache :=
  ⟨[]⟩

/-- The modes of lines that follow one another. -/
def ofLines (ls : List Text) : ModeCache :=
  ⟨.other :: modesAfter .other ls⟩

/-- The modes of a text. -/
def ofText (t : Text) : ModeCache :=
  ofLines t.lines

/-- The number of lines that two lists share at their start. -/
def sharedLines : List Text → List Text → Nat
  | a :: as, b :: bs => if a = b then sharedLines as bs + 1 else 0
  | _, _ => 0

/-- The modes of `new`, where `cache` has the modes of `old`: those up to the
first changed line are kept. -/
def update (cache : ModeCache) (old new : Text) : ModeCache :=
  let kept := cache.modes.take (sharedLines old.lines new.lines + 1)
  ⟨kept ++ modesAfter (kept.getLastD .other) (new.lines.drop (kept.length - 1))⟩

/-- The mode at line `n`; the lines past the end share the last mode. -/
def modeAt (cache : ModeCache) (n : Nat) : Mode :=
  cache.modes.getD n (cache.modes.getLastD .other)

/-- The caches of `ts`, each from the one before, where `cache` is that of
`t`. -/
def updates (cache : ModeCache) (t : Text) : List Text → List ModeCache
  | [] => []
  | next :: ts => cache.update t next :: updates (cache.update t next) next ts

/-- The caches of a chain of texts: the first from scratch, the others each from
the one before. -/
def versions : List Text → List ModeCache
  | [] => []
  | t :: ts => ofText t :: updates (ofText t) t ts

/-- The number of remembered modes. -/
def size (cache : ModeCache) : Nat :=
  cache.modes.length

@[simp] theorem length_modesAfter (m : Mode) (ls : List Text) :
    (modesAfter m ls).length = ls.length := by
  induction ls generalizing m with
  | nil => rfl
  | cons l ls ih => simp [modesAfter, ih]

theorem modesAfter_append (m : Mode) (ls ms : List Text) :
    modesAfter m (ls ++ ms) = modesAfter m ls ++ modesAfter (m.afterLines ls) ms := by
  induction ls generalizing m with
  | nil => rfl
  | cons l ls ih => simp [modesAfter, ih]

end ModeCache

end LuServer
