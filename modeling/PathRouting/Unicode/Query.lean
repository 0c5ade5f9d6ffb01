import PathRouting.Unicode.Age
import PathRouting.Unicode.DerivedProperty
import PathRouting.Unicode.ScriptExtension
set_option autoImplicit false

/-!
# Asking for code points by name

A set of code points is asked for by one name (of a binary property, a general category or a script)
or by a property and one of its values.
-/

namespace PathRouting.Unicode

/-- The code points with a binary property. -/
def property? (name : String) : Option CodeSet :=
  match derivedProperties.find? fun entry => entry.names.any (sameName name) with
  | some entry => some entry.set
  | none => NamedSet.find? listedProperties name

/-- The code points of a general category or of a group of them; all code points, the assigned ones
and the ASCII characters count as groups too. -/
def generalCategory? (name : String) : Option CodeSet :=
  if sameName name "Any" then some .full
  else if sameName name "Assigned" then some (category "Cn").complement
  else if sameName name "ASCII" then some (.range 0 0x7F)
  else category? name

/-- Short names of categories that are names of properties too; they stand for the category. -/
def categoryNames : List String := ["cf", "sc", "lc"]

/-- The set that goes by a single name. -/
def named? (name : String) : Option CodeSet :=
  let property :=
    if categoryNames.any (sameName name) then none else property? name
  property <|> generalCategory? name <|> NamedSet.find? scripts name

/-- How the values of a property are looked up. -/
structure ValuedProperty where
  /-- the names of the property -/
  names : List String
  /-- the code points that have a value -/
  value? : String → Option CodeSet

/-- The properties that are asked for with a value. -/
def valuedProperties : List ValuedProperty := [
  ⟨["General_Category", "gc"], generalCategory?⟩,
  ⟨["Script", "sc"], NamedSet.find? scripts⟩,
  ⟨["Script_Extensions", "scx"], scriptExtension?⟩,
  ⟨["Age"], assignedBy?⟩,
  ⟨["Grapheme_Cluster_Break", "GCB"], NamedSet.find? graphemeBreaks⟩,
  ⟨["Word_Break", "WB"], NamedSet.find? wordBreaks⟩,
  ⟨["Sentence_Break", "SB"], NamedSet.find? sentenceBreaks⟩]

/-- The code points for which a property has a value. -/
def valued? (property value : String) : Option CodeSet :=
  (valuedProperties.find? fun entry => entry.names.any (sameName property)).bind fun entry =>
    entry.value? value

end PathRouting.Unicode
