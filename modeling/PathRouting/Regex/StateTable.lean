import Std.Data.HashMap
set_option autoImplicit false

/-!
# Tables of states

Equal states of a class are laid out once, as long as the table of states remembers them.  The table
has a fixed number of slots.  What a state does decides its slot, and a new state takes the place of
the one that was there.
-/

namespace PathRouting.Regex

/-- A table of states. -/
structure StateTable where
  /-- the number of slots -/
  capacity : Nat
  /-- what the state in a slot does, and its number -/
  slots : Std.HashMap Nat (List Nat × Nat)

namespace StateTable

/-- A table without states. -/
def empty (capacity : Nat) : StateTable := ⟨capacity, {}⟩

/-- The slot of a state, by what it does: the numbers are folded into one of 64 bits, each by an
exclusive or and a multiplication. -/
def slot (table : StateTable) (behaviour : List Nat) : Nat :=
  let mix (hash : UInt64) (number : Nat) : UInt64 := (hash ^^^ number.toUInt64) * 0x100000001B3
  (behaviour.foldl mix 0xCBF29CE484222325).toNat % table.capacity

/-- The number of the state that does this, if the table remembers it. -/
def find? (table : StateTable) (behaviour : List Nat) : Option Nat :=
  match table.slots[table.slot behaviour]? with
  | none => none
  | some (found, number) => if found = behaviour then some number else none

/-- Remembers a state. -/
def insert (table : StateTable) (behaviour : List Nat) (number : Nat) : StateTable :=
  { table with slots := table.slots.insert (table.slot behaviour) (behaviour, number) }

end StateTable

end PathRouting.Regex
