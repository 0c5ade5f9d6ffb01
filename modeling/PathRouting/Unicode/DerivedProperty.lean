import PathRouting.Unicode.Category
import PathRouting.Unicode.Property
import PathRouting.Unicode.TextSegmentation
set_option autoImplicit false

/-!
# Derived properties

Binary properties that the Unicode standard defines from general categories and listed properties,
each by its defining formula.
-/

namespace PathRouting.Unicode

open CodeSet (unions)

/-- Small letters, and other characters used as such. -/
def lowercase : CodeSet := (category "Ll").union (listed "Other_Lowercase")

/-- Capital letters, and other characters used as such. -/
def uppercase : CodeSet := (category "Lu").union (listed "Other_Uppercase")

/-- Characters that have a case. -/
def cased : CodeSet := unions [lowercase, uppercase, category "Lt"]

/-- Characters that do not count when the case of their surroundings is looked at. -/
def caseIgnorable : CodeSet :=
  unions (categoriesUnion ["Mn", "Me", "Cf", "Lm", "Sk"]
    :: ["MidLetter", "MidNumLet", "Single_Quote"].map fun name =>
      (NamedSet.find? wordBreaks name).getD .empty)

/-- Letters, and other characters that words are written with. -/
def alphabetic : CodeSet :=
  unions [lowercase, uppercase, categoriesUnion ["Lt", "Lm", "Lo", "Nl"], listed "Other_Alphabetic"]

/-- Mathematical characters. -/
def mathematical : CodeSet := (category "Sm").union (listed "Other_Math")

/-- Characters that some change of case changes. -/
def changesWhenCasemapped : CodeSet :=
  unions [listed "Changes_When_Lowercased", listed "Changes_When_Titlecased",
    listed "Changes_When_Uppercased"]

/-- Characters that extend the one before them. -/
def graphemeExtend : CodeSet :=
  (categoriesUnion ["Me", "Mn"]).union (listed "Other_Grapheme_Extend")

/-- Characters that can start a user-perceived character. -/
def graphemeBase : CodeSet :=
  (unions [categoriesUnion ["Cc", "Cf", "Co", "Cn", "Zl", "Zp"], graphemeExtend,
    surrogates]).complement

/-- Characters that are shown as nothing where they are not supported. -/
def defaultIgnorable : CodeSet :=
  (listed "Other_Default_Ignorable_Code_Point").union
    (((category "Cf").union (listed "Variation_Selector")).diff
      (unions [listed "White_Space", .range 0xFFF9 0xFFFB, .range 0x13430 0x13440,
        listed "Prepended_Concatenation_Mark"]))

/-- Characters reserved for patterns, which no identifier holds. -/
def patternReserved : CodeSet :=
  (listed "Pattern_Syntax").union (listed "Pattern_White_Space")

/-- Characters that can start an identifier. -/
def idStart : CodeSet :=
  ((categoriesUnion ["Lu", "Ll", "Lt", "Lm", "Lo", "Nl"]).union
    (listed "Other_ID_Start")).diff patternReserved

/-- Characters that can go on in an identifier. -/
def idContinue : CodeSet :=
  (unions [idStart, categoriesUnion ["Mn", "Mc", "Nd", "Pc"],
    listed "Other_ID_Continue"]).diff patternReserved

/-- Characters that normalization takes to texts that are no identifier at all. -/
def unstableInIdentifiers : CodeSet :=
  .ofText ["37A 309B-309C FC5E-FC63 FDFA-FDFB FE70-FE7E/2"]

/-- Characters that normalization takes to texts that do not start an identifier. -/
def unstableAtStart : CodeSet :=
  .ofText ["E33 EB3 FF9E-FF9F"]

/-- Characters that can start an identifier, and still can after normalization. -/
def xidStart : CodeSet :=
  idStart.diff (unstableInIdentifiers.union unstableAtStart)

/-- Characters that can go on in an identifier, and still can after normalization. -/
def xidContinue : CodeSet :=
  idContinue.diff unstableInIdentifiers

/-- A derived property. -/
structure DerivedProperty where
  /-- the names, the long one first -/
  names : List String
  /-- the members -/
  set : CodeSet

/-- The derived properties. -/
def derivedProperties : List DerivedProperty := [
  ⟨["Alphabetic", "Alpha"], alphabetic⟩,
  ⟨["Case_Ignorable", "CI"], caseIgnorable⟩,
  ⟨["Cased"], cased⟩,
  ⟨["Changes_When_Casemapped", "CWCM"], changesWhenCasemapped⟩,
  ⟨["Default_Ignorable_Code_Point", "DI"], defaultIgnorable⟩,
  ⟨["Grapheme_Base", "Gr_Base"], graphemeBase⟩,
  ⟨["Grapheme_Extend", "Gr_Ext"], graphemeExtend⟩,
  ⟨["ID_Continue", "IDC"], idContinue⟩,
  ⟨["ID_Start", "IDS"], idStart⟩,
  ⟨["Lowercase", "Lower"], lowercase⟩,
  ⟨["Math"], mathematical⟩,
  ⟨["Uppercase", "Upper"], uppercase⟩,
  ⟨["XID_Continue", "XIDC"], xidContinue⟩,
  ⟨["XID_Start", "XIDS"], xidStart⟩]

end PathRouting.Unicode
