import PathRouting.Toml.Value
import PathRouting.Unicode.WhiteSpace
set_option autoImplicit false

/-!
# Readers of documents

Options are written in documents.  Which texts are documents is for a reader of documents to say,
and of a reader little is asked: that in the documents it gives every key stands for one value.
Every statement about options is made for all such readers at once.
-/

namespace PathRouting

open Toml (Entries)

/-- A reader of documents. -/
structure DocumentReader where
  /-- the entries of the document that a text stands for, if it is one -/
  parse? : String → Option Entries
  /-- each key of a document stands for one value, at every level -/
  coherent : ∀ {text : String} {document : Entries}, parse? text = some document → document.Coherent

/-- A text of white space alone holds no entries, as far as the reader takes it for a document. -/
def DocumentReader.BlankIsEmpty (reader : DocumentReader) : Prop :=
  ∀ {text : String} {document : Entries}, Unicode.isBlank text = true →
    reader.parse? text = some document → document = []

end PathRouting
