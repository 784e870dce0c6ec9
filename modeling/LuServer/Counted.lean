/-
# Counted readings

Reading a whole text is the costly part of what the server does.  A counted
result says how many times a text was read to find it.

* `Counted`: a value and the number of readings behind it.
* `extract?`, `extractAround?`: the model of a text, or of the text without one
  of its lines when the whole text cannot be read.
-/
import LuServer.Draft

namespace LuServer

/-- A value, and how many times a text was read for it. -/
structure Counted (α : Type) where
  value : α
  parses : Nat := 0
deriving DecidableEq, Repr

namespace Counted

instance : Monad Counted where
  pure a := ⟨a, 0⟩
  bind x f := ⟨(f x.value).value, x.parses + (f x.value).parses⟩

@[simp] theorem value_pure {α : Type} (a : α) : (pure a : Counted α).value = a := rfl

@[simp] theorem value_bind {α β : Type} (x : Counted α) (f : α → Counted β) :
    (x >>= f).value = (f x.value).value := rfl

@[simp] theorem parses_bind {α β : Type} (x : Counted α) (f : α → Counted β) :
    (x >>= f).parses = x.parses + (f x.value).parses := rfl

/-- One reading of a text. -/
def parse (text culture : Text) : Counted (Except (List SyntaxError) Model) :=
  ⟨LuServer.parse text culture, 1⟩

end Counted

/-- The model of a text, if it can be read. -/
def extract? (text culture : Text) : Counted (Option Model) := do
  match ← Counted.parse text culture with
  | .ok m => return some m
  | .error _ => return none

/-- The model of a text, or else that of the text without line `n`, which is
the line being typed. -/
def extractAround? (text : Text) (n : Nat) (culture : Text) : Counted (Option Model) := do
  match ← extract? text culture with
  | some m => return some m
  | none => extract? (text.withoutLine n) culture

end LuServer
