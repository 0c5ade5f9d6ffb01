import PathRouting.Unicode.CodeSet
set_option autoImplicit false

/-!
# Named sets of code points

The values of Unicode properties go by a long name and often by shorter ones.  Names are compared
loosely: case, blanks, underscores, hyphens and an initial `is` make no difference.
-/

namespace PathRouting.Unicode

/-- A letter in lower case. -/
def lowerAscii (char : Char) : Char :=
  if 'A' ≤ char ∧ char ≤ 'Z' then Char.ofNat (char.toNat + 32) else char

/-- The loose form of a name.  `isc` is a name of its own and not `c` with an initial `is`. -/
def looseName (name : List Char) : List Char :=
  let squeeze (text : List Char) : List Char :=
    (text.filter fun char => char ≠ ' ' && char ≠ '_' && char ≠ '-' && char.toNat < 0x80).map
      lowerAscii
  if (name.take 2).map lowerAscii = ['i', 's'] then
    let short := squeeze (name.drop 2)
    if short = ['c'] then ['i', 's', 'c'] else short
  else squeeze name

/-- Are two names the same, compared loosely? -/
def sameName (a b : String) : Bool :=
  looseName a.toList = looseName b.toList

/-- A set of code points with the names it goes by. -/
structure NamedSet where
  /-- the names, the long one first -/
  names : List String
  /-- the members, as lines of runs -/
  members : List String
  deriving DecidableEq, Repr, Inhabited

namespace NamedSet

/-- The members. -/
def set (entry : NamedSet) : CodeSet :=
  CodeSet.ofText entry.members

/-- The entry that goes by a name. -/
def lookup? (entries : List NamedSet) (name : String) : Option NamedSet :=
  entries.find? fun entry => entry.names.any (sameName name)

/-- The set that goes by a name. -/
def find? (entries : List NamedSet) (name : String) : Option CodeSet :=
  (lookup? entries name).map set

end NamedSet

end PathRouting.Unicode
