import PathRouting.Config
import PathRouting.Toml.Value
set_option autoImplicit false

/-!
# Options in a document

The options of a router stand under the key `router` of a document, and every other key is ignored.
They are a table with the key `wildcard_mode`, or an array with the mode as its first item, be it
written in brackets or as tables added one by one; a mode is its name, or a table whose one key is
the name.
-/

namespace PathRouting

open Toml (Entries Value)

/-- The mode that a value stands for. -/
def WildcardMode.ofValue? : Value → Option WildcardMode
  | .string name => ofName? name
  | .table _ [(name, content)] => if content.isVoid then ofName? name else none
  | .table _ _ => none
  | .array _ => none
  | .tables _ => none
  | .integer _ => none
  | .float _ => none
  | .boolean _ => none
  | .datetime _ => none

namespace Config

/-- The options with a mode that may be left out. -/
def ofMode? : Option Value → Option Config
  | none => some {}
  | some value => (WildcardMode.ofValue? value).map fun mode => { wildcardMode := mode }

/-- The options that the value of the key `router` stands for.  A date or time counts as a table
without the key of the mode. -/
def ofValue? : Value → Option Config
  | .table _ entries => ofMode? (entries.lookup "wildcard_mode")
  | .array items => ofMode? items.head?
  | .tables items => ofMode? items.head?
  | .datetime _ => ofMode? none
  | .string _ => none
  | .integer _ => none
  | .float _ => none
  | .boolean _ => none

/-- The options in a document. -/
def ofDocument? (document : Entries) : Option Config :=
  match document.lookup "router" with
  | none => some {}
  | some value => ofValue? value

end Config

end PathRouting
