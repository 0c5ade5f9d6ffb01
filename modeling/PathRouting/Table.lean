set_option autoImplicit false

/-!
# Tables keyed by text

A table binds texts to values and lists its bindings in ascending order of their keys, the order of
code points (which is also the order of UTF-8 bytes).  Binding a key that is already bound keeps its
place, and a key that is not bound enters before the first larger one; so a table built from the
empty one by `insert` and `erase` has one listing, whatever the order of the insertions, and erasing
a key that was just bound for the first time gives back the very table there was before.
-/

namespace PathRouting

/-- Bindings of texts to values, in ascending key order. -/
structure Table (α : Type) where
  /-- the bindings, smallest key first -/
  entries : List (String × α)
  deriving DecidableEq, Repr, Inhabited

namespace Table

variable {α : Type}

/-- The table without bindings. -/
def empty : Table α := ⟨[]⟩

/-- The value bound to a key. -/
def get? (table : Table α) (key : String) : Option α :=
  table.entries.lookup key

/-- Is the key bound? -/
def contains (table : Table α) (key : String) : Bool :=
  (table.get? key).isSome

/-- A fresh binding enters a listing before the first larger key. -/
def enter (key : String) (value : α) : List (String × α) → List (String × α)
  | [] => [(key, value)]
  | (other, bound) :: rest =>
    if key < other then (key, value) :: (other, bound) :: rest
    else (other, bound) :: enter key value rest

/-- A bound key takes a new value and keeps its place. -/
def rebind (key : String) (value : α) (entries : List (String × α)) : List (String × α) :=
  entries.map fun entry => if entry.1 = key then (key, value) else entry

/-- Binds a key to a value, in place of the value it had. -/
def insert (table : Table α) (key : String) (value : α) : Table α :=
  if table.contains key then ⟨rebind key value table.entries⟩
  else ⟨enter key value table.entries⟩

/-- Takes the binding of a key away. -/
def erase (table : Table α) (key : String) : Table α :=
  ⟨table.entries.filter fun entry => entry.1 ≠ key⟩

/-- The keys, in ascending order. -/
def keys (table : Table α) : List String :=
  table.entries.map (·.1)

/-- The values, in the order of their keys. -/
def values (table : Table α) : List α :=
  table.entries.map (·.2)

/-- The entries are in strictly ascending key order, so each key is bound once. -/
def Sorted (table : Table α) : Prop :=
  table.entries.Pairwise fun a b => a.1 < b.1

end Table

end PathRouting
