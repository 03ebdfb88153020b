/-
  Tables in insertion order: a list of keys and values in which each key has
  one place, the place of its first `put`, and the value of its last.

  * `put` adds a key at the end or replaces its value where it stands;
  * `get?`, `contains` and `keys` are what can be seen of a table.
-/
namespace ClassCatalog

/-- Keys with their values, in order of first insertion. -/
abbrev Table (κ α : Type) := List (κ × α)

namespace Table

variable {κ α : Type} [DecidableEq κ]

/-- The value stored under a key. -/
def get? (t : Table κ α) (k : κ) : Option α := List.lookup k t

/-- A value is stored under the key. -/
def contains (t : Table κ α) (k : κ) : Bool := (t.get? k).isSome

/-- The keys in order of first insertion. -/
def keys (t : Table κ α) : List κ := t.map Prod.fst

/-- Stores a value: in place if the key is known, else at the end. -/
def put : Table κ α → κ → α → Table κ α
  | [], k, v => [(k, v)]
  | (k', v') :: t, k, v => if k' = k then (k, v) :: t else (k', v') :: put t k v

/-- Removes a key. -/
def erase (t : Table κ α) (k : κ) : Table κ α := t.filter fun e => e.1 ≠ k

/-- Changes the value of a key that is present. -/
def modify (t : Table κ α) (k : κ) (f : α → α) : Table κ α :=
  match t.get? k with
  | some v => t.put k (f v)
  | none => t

/-- The table that a sequence of `put`s leaves behind. -/
def ofPuts (puts : List (κ × α)) : Table κ α := puts.foldl (fun t e => t.put e.1 e.2) []

end Table

end ClassCatalog
