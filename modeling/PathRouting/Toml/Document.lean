import PathRouting.Toml.Reader
set_option autoImplicit false

/-!
# Configuration documents

A document is read line by line.  A header says which table the lines behind it add to; the lines
before the first header add to the document itself.
-/

namespace PathRouting.Toml

/-- A document so far, and the path of the table that lines add to. -/
structure Draft where
  entries : Entries
  current : List String
  deriving Inhabited

/-- What a line makes of a draft, unless it contradicts the lines before it. -/
def Draft.add (draft : Draft) : Line → Option Draft
  | .pair key value =>
    (Entries.alterAt false (Entries.define key.path key.name value) draft.current .header
      draft.entries).map fun entries => { draft with entries := entries }
  | .table key =>
    (Entries.openTable key.path key.name .header draft.entries).map fun entries =>
      ⟨entries, key.path ++ [key.name]⟩
  | .addedTable key =>
    (Entries.addTable key.path key.name .header draft.entries).map fun entries =>
      ⟨entries, key.path ++ [key.name]⟩

/-- What lines make of a draft. -/
def Draft.addAll (draft : Draft) : List Line → Option Draft
  | [] => some draft
  | line :: rest => (draft.add line).bind fun next => next.addAll rest

/-- Drops a byte order mark. -/
def dropMark : List Char → List Char
  | '\ufeff' :: rest => rest
  | text => text

/-- The entries of the document that a text stands for, if it is a document. -/
def parse? (text : String) : Option Entries :=
  let chars := dropMark text.toList
  (readLines (chars.length + 1) chars).bind fun lines =>
    (Draft.addAll ⟨[], []⟩ lines).map (·.entries)

end PathRouting.Toml
