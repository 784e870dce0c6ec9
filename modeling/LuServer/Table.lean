/-
# Tables

A table holds at most one value for a key.  Every fact about a table is a fact
about `Table.get?`.
-/
namespace LuServer

/-- A finite map, newest entry first. -/
structure Table (κ α : Type) where
  entries : List (κ × α) := []
deriving Repr

namespace Table

variable {κ α : Type} [DecidableEq κ]

/-- The table without entries. -/
def empty : Table κ α :=
  ⟨[]⟩

/-- The value for a key. -/
def get? (t : Table κ α) (k : κ) : Option α :=
  t.entries.lookup k

/-- Whether a key has a value. -/
def contains (t : Table κ α) (k : κ) : Bool :=
  (t.get? k).isSome

/-- The table without a value for a key. -/
def erase (t : Table κ α) (k : κ) : Table κ α :=
  ⟨t.entries.filter fun e => e.1 ≠ k⟩

/-- The table with a value for a key. -/
def insert (t : Table κ α) (k : κ) (a : α) : Table κ α :=
  ⟨(k, a) :: (t.erase k).entries⟩

/-- The keys that have a value. -/
def keys (t : Table κ α) : List κ :=
  t.entries.map Prod.fst

@[simp] theorem get?_empty (k : κ) : (empty : Table κ α).get? k = none := rfl

@[simp] theorem get?_erase (t : Table κ α) (j k : κ) :
    (t.erase j).get? k = if k = j then none else t.get? k := by
  obtain ⟨l⟩ := t
  simp only [erase, get?]
  induction l with
  | nil => simp
  | cons e l ih =>
    obtain ⟨i, a⟩ := e
    by_cases hk : k = j
    · subst hk
      by_cases hi : i = k
      · simpa [hi] using ih
      · have hki : (k == i) = false := by simpa using Ne.symm hi
        simpa [hi, List.lookup_cons, hki] using ih
    · by_cases hi : i = j
      · subst hi
        have hki : (k == i) = false := by simpa using hk
        simpa [hk, List.lookup_cons, hki] using ih
      · by_cases hki : k = i
        · subst hki
          simp [hk]
        · have hb : (k == i) = false := by simpa using hki
          simpa [hi, hk, List.lookup_cons, hb] using ih

@[simp] theorem get?_insert (t : Table κ α) (j k : κ) (a : α) :
    (t.insert j a).get? k = if k = j then some a else t.get? k := by
  by_cases h : k = j
  · simp [insert, get?, h]
  · have hb : (k == j) = false := by simpa using h
    have he := get?_erase t j k
    simp only [get?, h, if_false] at he
    simp [insert, get?, h, List.lookup_cons, hb, he]

end Table

end LuServer
