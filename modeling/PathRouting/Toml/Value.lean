set_option autoImplicit false

/-!
# Values of a configuration document

A document is a table.  A table remembers how it came to be defined, since that decides what a later
line of the document may still add to it.  A value is coherent when each of its tables, however
deep, has every key once, and when tables that were added one by one are tables indeed and at least
one.
-/

namespace PathRouting.Toml

/-- How a table came to be defined. -/
inductive Origin where
  /-- by a header of its own, or as the document itself -/
  | header
  /-- as a table on the way to the table of a header -/
  | implied
  /-- as a table on the way to a dotted key -/
  | dotted
  /-- in braces, which closes it -/
  | braces
  deriving DecidableEq, Repr, Inhabited

/-- A value. -/
inductive Value where
  | string (text : String)
  | integer (number : Int)
  /-- a number with a fraction or an exponent, or one of the special ones, as it is written -/
  | float (text : String)
  | boolean (value : Bool)
  /-- a date, a time, or both, as it is written -/
  | datetime (text : String)
  | array (items : List Value)
  | table (origin : Origin) (entries : List (String × Value))
  /-- tables that were added one by one, by headers in double brackets -/
  | tables (items : List Value)
  deriving Inhabited

/-- Does a value hold nothing, as a table or as an array? -/
def Value.isVoid : Value → Bool
  | .table _ entries => entries.isEmpty
  | .array items => items.isEmpty
  | .tables items => items.isEmpty
  | .string _ => false
  | .integer _ => false
  | .float _ => false
  | .boolean _ => false
  | .datetime _ => false

/-- Each key of a table stands for one value, in the value itself and in all that it holds. -/
inductive Value.Coherent : Value → Prop where
  | string (text : String) : Coherent (.string text)
  | integer (number : Int) : Coherent (.integer number)
  | float (text : String) : Coherent (.float text)
  | boolean (value : Bool) : Coherent (.boolean value)
  | datetime (text : String) : Coherent (.datetime text)
  | array {items : List Value} (hitems : ∀ item ∈ items, item.Coherent) : Coherent (.array items)
  | table (origin : Origin) {entries : List (String × Value)}
      (hkeys : (entries.map Prod.fst).Nodup) (hvalues : ∀ entry ∈ entries, entry.2.Coherent) :
      Coherent (.table origin entries)
  | tables {items : List Value} (hsome : items ≠ [])
      (htables : ∀ item ∈ items, ∃ origin entries, item = .table origin entries)
      (hitems : ∀ item ∈ items, item.Coherent) : Coherent (.tables items)

/-- The entries of a table, in the order of their definition. -/
abbrev Entries := List (String × Value)

namespace Entries

/-- The entries of a table are coherent: each key stands for one value, here and further down. -/
structure Coherent (entries : Entries) : Prop where
  keys : (entries.map Prod.fst).Nodup
  values : ∀ entry ∈ entries, entry.2.Coherent

/-- Binds a key to a value, in place of the value it had. -/
def bind (entries : Entries) (key : String) (value : Value) : Entries :=
  if (entries.lookup key).isSome then
    entries.map fun entry => if entry.1 = key then (key, value) else entry
  else entries ++ [(key, value)]

/-- Changes the entries of the table that a path leads to, making tables that are missing on the
way. The path goes through the last of tables that were added one by one.  A path of dotted keys
goes through no table that has a header, and no path goes through a table in braces. -/
def alterAt (byDots : Bool) (change : Origin → Entries → Option Entries) :
    List String → Origin → Entries → Option Entries
  | [], origin, entries => change origin entries
  | key :: rest, _, entries =>
    match entries.lookup key with
    | none =>
      let origin := if byDots then Origin.dotted else Origin.implied
      (alterAt byDots change rest origin []).map fun inner => entries.bind key (.table origin inner)
    | some (.table .braces _) => none
    | some (.table origin inner) =>
      if byDots && origin = .header then none
      else (alterAt byDots change rest origin inner).map fun changed =>
        entries.bind key (.table origin changed)
    | some (.tables items) =>
      match items.getLast? with
      | some (.table origin inner) =>
        (alterAt byDots change rest origin inner).map fun changed =>
          entries.bind key (.tables (items.dropLast ++ [.table origin changed]))
      | _ => none
    | some _ => none

/-- Defines the value of a dotted key, given by its path and its last part.  Dotted keys add to
tables that dotted keys made, and plain keys to all others; no key is defined twice. -/
def define (path : List String) (key : String) (value : Value) :
    Origin → Entries → Option Entries :=
  alterAt true
    (fun origin entries =>
      if decide (origin = .dotted) = path.isEmpty then none
      else if (entries.lookup key).isSome then none
      else some (entries.bind key value))
    path

/-- Opens the table of a header, given by its path and its last part.  The table must be new, or
implied by a header before. -/
def openTable (path : List String) (key : String) : Origin → Entries → Option Entries :=
  alterAt false
    (fun _ entries =>
      match entries.lookup key with
      | none => some (entries.bind key (.table .header []))
      | some (.table .implied inner) => some (entries.bind key (.table .header inner))
      | some _ => none)
    path

/-- Adds a table under a header in double brackets. -/
def addTable (path : List String) (key : String) : Origin → Entries → Option Entries :=
  alterAt false
    (fun _ entries =>
      match entries.lookup key with
      | none => some (entries.bind key (.tables [.table .header []]))
      | some (.tables items) => some (entries.bind key (.tables (items ++ [.table .header []])))
      | some _ => none)
    path

end Entries

end PathRouting.Toml
