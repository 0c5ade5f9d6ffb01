import PathRouting.Config.Decode
import PathRouting.Config.Reader
import PathRouting.Text.Quotation
set_option autoImplicit false

/-!
# Loading options

Options come from a text or from a file.  A file that is missing or blank gives the default options.
-/

namespace PathRouting

/-- Why options could not be loaded. -/
inductive ConfigError where
  /-- the text is no document, or its options are malformed -/
  | malformed
  /-- the file at the path cannot be read as text -/
  | unreadable (path : String)
  /-- the text of the file at the path is malformed -/
  | malformedFile (path : String)
  deriving DecidableEq, Repr, Inhabited

/-- What went wrong, from the whole to its cause. -/
def ConfigError.context : ConfigError → List String
  | malformed => ["Failed to parse router configuration"]
  | unreadable path => ["Failed to read config file: " ++ Text.quote path]
  | malformedFile path =>
    ["Failed to parse config file: " ++ Text.quote path, "Failed to parse router configuration"]

/-- What went wrong on the whole. -/
def ConfigError.message (error : ConfigError) : String :=
  error.context.headD ""

/-- What is found at a path. -/
inductive FileContent where
  /-- nothing -/
  | missing
  /-- something that cannot be read as text -/
  | unreadable
  /-- a text -/
  | text (content : String)
  deriving DecidableEq, Repr, Inhabited

/-- What the bytes of a file are as text: they must be valid UTF-8. -/
def FileContent.ofBytes (bytes : List UInt8) : FileContent :=
  match String.fromUTF8? ⟨bytes.toArray⟩ with
  | some content => .text content
  | none => .unreadable

namespace Config

/-- The options in a text. -/
def ofText (reader : DocumentReader) (text : String) : Except ConfigError Config :=
  match (reader.parse? text).bind ofDocument? with
  | some config => .ok config
  | none => .error .malformed

/-- The options in a file, given its path and what is found there. -/
def load (reader : DocumentReader) (path : String) : FileContent → Except ConfigError Config
  | .missing => .ok {}
  | .unreadable => .error (.unreadable path)
  | .text content =>
    if Unicode.isBlank content then .ok {}
    else
      match ofText reader content with
      | .ok config => .ok config
      | .error _ => .error (.malformedFile path)

end Config

end PathRouting
