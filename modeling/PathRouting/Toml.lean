import PathRouting.Config.Reader
import PathRouting.Proofs.Coherence
set_option autoImplicit false

/-!
# The reader of documents
-/

namespace PathRouting

/-- The reader of documents line by line, whose documents are coherent. -/
def Toml.documentReader : DocumentReader where
  parse? := parse?
  coherent := coherent_of_parse?

end PathRouting
