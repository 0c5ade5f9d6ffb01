import PathRouting.Config.Load
import PathRouting.Toml
set_option autoImplicit false

/-!
# What a document says about the options

A document says at most one thing about the options: the value of the mode.  `ModeField` tells where
it stands, or that there is none, and `WildcardMode.Stated` which mode it states; both speak of the
entries of the document, and a document that neither of them covers has malformed options.  The
decoder sees no more of a document than the value (`ModeField.ofDocument?_eq`), reads it as it is
stated (`ofMode?_eq_some_iff`), and refuses everything else (`exists_modeField`).  So documents with
the same value give the same options, whatever else they hold and whoever reads them
(`ofText_follows_mode`).
-/

namespace PathRouting

open Toml (Entries Value)

/-! ## Modes -/

/-- A value that is an empty table or an empty array. -/
inductive Toml.Value.Empty : Value → Prop where
  | table (origin : Toml.Origin) : Empty (.table origin [])
  | array : Empty (.array [])

theorem Toml.Value.Coherent.isVoid_iff {value : Value} (hvalue : value.Coherent) :
    value.isVoid = true ↔ value.Empty := by
  constructor
  · intro hvoid
    cases hvalue with
    | array hitems =>
      rw [isVoid, List.isEmpty_iff] at hvoid
      exact hvoid ▸ .array
    | table origin hkeys hvalues =>
      rw [isVoid, List.isEmpty_iff] at hvoid
      exact hvoid ▸ .table origin
    | tables hsome htables hitems =>
      rw [isVoid, List.isEmpty_iff] at hvoid
      exact absurd hvoid hsome
    | _ => cases hvoid
  · rintro (origin | _) <;> rfl

namespace WildcardMode

/-- The names of the modes. -/
inductive Named : String → WildcardMode → Prop where
  | absorb : Named "absorb" .absorb
  | singleSegment : Named "single_segment" .singleSegment

/-- The mode that a value states, or the want of a value: the mode that it names, by itself or as
the only key of a table, with nothing in it. -/
inductive Stated : Option Value → WildcardMode → Prop where
  | absent : Stated none .absorb
  | name {name : String} {mode : WildcardMode} (hname : Named name mode) :
      Stated (some (.string name)) mode
  | table (origin : Toml.Origin) {name : String} {mode : WildcardMode} {content : Value}
      (hname : Named name mode) (hcontent : content.Empty) :
      Stated (some (.table origin [(name, content)])) mode

theorem ofName?_eq_some_iff {name : String} {mode : WildcardMode} :
    ofName? name = some mode ↔ Named name mode := by
  constructor
  · intro hmode
    unfold ofName? at hmode
    split at hmode
    · next hname =>
      cases hmode
      exact hname ▸ .absorb
    · split at hmode
      · next hname =>
        cases hmode
        exact hname ▸ .singleSegment
      · cases hmode
  · rintro (_ | _) <;> rfl

theorem ofValue?_eq_some_iff {value : Value} (hvalue : value.Coherent) {mode : WildcardMode} :
    ofValue? value = some mode ↔ Stated (some value) mode := by
  constructor
  · intro hmode
    unfold ofValue? at hmode
    split at hmode
    · exact .name (ofName?_eq_some_iff.mp hmode)
    · next origin name content =>
      split at hmode
      · next hvoid =>
        have hcontent : content.Coherent :=
          (Toml.Entries.coherent_table_iff.mp hvalue).values (name, content) List.mem_cons_self
        exact .table origin (ofName?_eq_some_iff.mp hmode) (hcontent.isVoid_iff.mp hvoid)
      · cases hmode
    all_goals cases hmode
  · intro hstated
    cases hstated with
    | name hname => exact ofName?_eq_some_iff.mpr hname
    | @table origin name _ content hname hcontent =>
      have hvoid : content.isVoid = true := by
        cases hcontent <;> rfl
      rw [ofValue?, if_pos hvoid]
      exact ofName?_eq_some_iff.mpr hname

end WildcardMode

namespace Config

open WildcardMode (Stated)

theorem ofMode?_eq_some_iff {mode? : Option Value} (hmode : ∀ value ∈ mode?, value.Coherent)
    {config : Config} :
    ofMode? mode? = some config ↔ Stated mode? config.wildcardMode := by
  cases mode? with
  | none =>
    constructor
    · intro hconfig
      cases hconfig
      exact .absent
    · obtain ⟨mode⟩ := config
      rintro ⟨⟩
      rfl
  | some value =>
    rw [← WildcardMode.ofValue?_eq_some_iff (hmode value rfl), ofMode?, Option.map_eq_some_iff]
    constructor
    · rintro ⟨mode, hvalue, rfl⟩
      exact hvalue
    · exact fun hvalue => ⟨config.wildcardMode, hvalue, rfl⟩

/-! ## The place of the mode -/

/-- The value of the mode in a document, if the document has one: under its key in the table
`router`, or at the head of the array `router`, be it an array of tables or another.  A document
without `router` has none, and neither has one where `router` is a date or time. -/
inductive ModeField (document : Entries) : Option Value → Prop where
  | noRouter (hrouter : ∀ value, ("router", value) ∉ document) : ModeField document none
  | noMode {origin : Toml.Origin} {entries : List (String × Value)}
      (hrouter : ("router", .table origin entries) ∈ document)
      (hmode : ∀ value, ("wildcard_mode", value) ∉ entries) : ModeField document none
  | mode {origin : Toml.Origin} {entries : List (String × Value)} {value : Value}
      (hrouter : ("router", .table origin entries) ∈ document)
      (hmode : ("wildcard_mode", value) ∈ entries) : ModeField document (some value)
  | datetime {text : String} (hrouter : ("router", .datetime text) ∈ document) :
      ModeField document none
  | array {items : List Value} (hrouter : ("router", .array items) ∈ document) :
      ModeField document items.head?
  | tables {items : List Value} (hrouter : ("router", .tables items) ∈ document) :
      ModeField document items.head?

section Coherent

variable {document : Entries} {mode? : Option Value} (hdocument : document.Coherent)
include hdocument

theorem ModeField.coherent (hfield : ModeField document mode?) :
    ∀ value ∈ mode?, value.Coherent := by
  intro value hvalue
  cases hfield with
  | noRouter hrouter => cases hvalue
  | noMode hrouter hmode => cases hvalue
  | mode hrouter hmode =>
    cases hvalue
    exact (Toml.Entries.coherent_table_iff.mp (hdocument.values _ hrouter)).values _ hmode
  | datetime hrouter => cases hvalue
  | array hrouter =>
    cases hdocument.values _ hrouter with
    | array hitems => exact hitems value (List.mem_of_head? hvalue)
  | tables hrouter =>
    cases hdocument.values _ hrouter with
    | tables hsome htables hitems => exact hitems value (List.mem_of_head? hvalue)

theorem ofDocument?_of_mem {value : Value} (hrouter : ("router", value) ∈ document) :
    ofDocument? document = ofValue? value := by
  simp only [ofDocument?, hdocument.lookup_eq_some_iff.mpr hrouter]

/-- The decoder sees of a document only the value of the mode. -/
theorem ModeField.ofDocument?_eq (hfield : ModeField document mode?) :
    ofDocument? document = ofMode? mode? := by
  cases hfield with
  | noRouter hrouter =>
    simp only [ofDocument?, Toml.Entries.lookup_eq_none_iff.mpr hrouter, ofMode?]
  | noMode hrouter hmode =>
    rw [ofDocument?_of_mem hdocument hrouter, ofValue?,
      Toml.Entries.lookup_eq_none_iff.mpr hmode]
  | mode hrouter hmode =>
    have hentries := Toml.Entries.coherent_table_iff.mp (hdocument.values _ hrouter)
    rw [ofDocument?_of_mem hdocument hrouter, ofValue?, hentries.lookup_eq_some_iff.mpr hmode]
  | datetime hrouter => rw [ofDocument?_of_mem hdocument hrouter, ofValue?]
  | array hrouter => rw [ofDocument?_of_mem hdocument hrouter, ofValue?]
  | tables hrouter => rw [ofDocument?_of_mem hdocument hrouter, ofValue?]

omit hdocument in
/-- Where there are options, there is a place for the mode. -/
theorem exists_modeField {config : Config} (hconfig : ofDocument? document = some config) :
    ∃ mode?, ModeField document mode? := by
  unfold ofDocument? at hconfig
  split at hconfig
  · next hrouter => exact ⟨none, .noRouter (Toml.Entries.lookup_eq_none_iff.mp hrouter)⟩
  · next value hrouter =>
    have hmem := Table.mem_of_lookup hrouter
    cases value with
    | table origin entries =>
      cases hmode : entries.lookup "wildcard_mode" with
      | none => exact ⟨none, .noMode hmem (Toml.Entries.lookup_eq_none_iff.mp hmode)⟩
      | some value => exact ⟨some value, .mode hmem (Table.mem_of_lookup hmode)⟩
    | array items => exact ⟨items.head?, .array hmem⟩
    | tables items => exact ⟨items.head?, .tables hmem⟩
    | datetime text => exact ⟨none, .datetime hmem⟩
    | _ => cases hconfig

theorem ofDocument?_eq_some_iff {config : Config} :
    ofDocument? document = some config ↔
      ∃ mode?, ModeField document mode? ∧ Stated mode? config.wildcardMode := by
  constructor
  · intro hconfig
    obtain ⟨mode?, hfield⟩ := exists_modeField hconfig
    rw [hfield.ofDocument?_eq hdocument, ofMode?_eq_some_iff (hfield.coherent hdocument)] at hconfig
    exact ⟨mode?, hfield, hconfig⟩
  · rintro ⟨mode?, hfield, hstated⟩
    rw [hfield.ofDocument?_eq hdocument]
    exact (ofMode?_eq_some_iff (hfield.coherent hdocument)).mpr hstated

end Coherent

/-! ## Texts -/

section Reader

variable {reader : DocumentReader}

theorem ofText_eq_ok_iff {text : String} {config : Config} :
    ofText reader text = .ok config ↔
      ∃ document, reader.parse? text = some document ∧ ofDocument? document = some config := by
  rw [← Option.bind_eq_some_iff, ofText]
  split
  · next found hfound => rw [hfound, Except.ok.injEq, Option.some.injEq]
  · next hnone => simp [hnone]

/-- There is one way only for a text to fail. -/
theorem eq_malformed_of_ofText {text : String} {error : ConfigError}
    (herror : ofText reader text = .error error) : error = .malformed := by
  unfold ofText at herror
  split at herror
  · cases herror
  · exact (Except.error.inj herror).symm

theorem ofText_of_parse?_eq_none {text : String} (hparse : reader.parse? text = none) :
    ofText reader text = .error .malformed := by
  rw [ofText, hparse]
  rfl

end Reader

/-- A text that is no document has no options, and the failure says so in one line; so it does
whenever a text fails.  The text of a document has the options that the value of the mode states,
and texts of documents with the same value have the same options or fail alike. -/
theorem ofText_follows_mode (reader : DocumentReader) (text : String) :
    (∀ error, ofText reader text = .error error →
      error.context = ["Failed to parse router configuration"]) ∧
    (reader.parse? text = none → ∃ error, ofText reader text = .error error) ∧
    ∀ document, reader.parse? text = some document →
      (∀ config, ofText reader text = .ok config ↔
        ∃ mode?, ModeField document mode? ∧ Stated mode? config.wildcardMode) ∧
      ∀ other document', reader.parse? other = some document' → ∀ mode?,
        ModeField document mode? → ModeField document' mode? →
          ofText reader text = ofText reader other := by
  refine ⟨fun error herror => ?_, fun hparse => ⟨.malformed, ofText_of_parse?_eq_none hparse⟩,
    fun document hparse => ⟨fun config => ?_, ?_⟩⟩
  · rw [eq_malformed_of_ofText herror]
    rfl
  · rw [ofText_eq_ok_iff, ← ofDocument?_eq_some_iff (reader.coherent hparse), hparse]
    simp
  · intro other document' hparse' mode? hfield hfield'
    unfold ofText
    rw [hparse, hparse', Option.bind_some, Option.bind_some,
      hfield.ofDocument?_eq (reader.coherent hparse),
      hfield'.ofDocument?_eq (reader.coherent hparse')]

/-- A text with keys of no use, in its document and beside the mode. -/
def annotated : String :=
  "title = 'x'\n[router]\ndepth = 3\nwildcard_mode = 'single_segment'\n[[other]]"

/-- The document of that text. -/
def annotatedDocument : Entries :=
  [("title", .string "x"),
    ("router",
      .table .header [("depth", .integer 3), ("wildcard_mode", .string "single_segment")]),
    ("other", .tables [.table .header []])]

/-- The mode is found among keys of no use, and it alone decides. -/
theorem ofText_follows_mode_annotated :
    Toml.documentReader.parse? annotated = some annotatedDocument ∧
      ModeField annotatedDocument (some (.string "single_segment")) ∧
      ofText Toml.documentReader annotated = .ok { wildcardMode := .singleSegment } ∧
      ofText Toml.documentReader annotated =
        ofText Toml.documentReader "router = ['single_segment', 1]" := by
  have hparse : Toml.documentReader.parse? annotated = some annotatedDocument := rfl
  have hfield : ModeField annotatedDocument (some (.string "single_segment")) :=
    .mode (List.mem_cons_of_mem _ List.mem_cons_self) (List.mem_cons_of_mem _ List.mem_cons_self)
  obtain ⟨-, -, hdocuments⟩ := ofText_follows_mode Toml.documentReader annotated
  obtain ⟨hconfig, halike⟩ := hdocuments annotatedDocument hparse
  refine ⟨hparse, hfield, (hconfig _).mpr ⟨_, hfield, .name .singleSegment⟩, ?_⟩
  exact halike _ [("router", .array [.string "single_segment", .integer 1])] rfl _ hfield
    (.array List.mem_cons_self)

/-- Tables that were added one by one are an array, so the first of them is read as the mode: options
are not refused where `router` is an array of tables. -/
theorem ofText_of_addedTables :
    Toml.documentReader.parse? "[[router]]\nsingle_segment = \x7b\x7d" =
      some [("router", .tables [.table .header [("single_segment", .table .braces [])]])] ∧
    ofText Toml.documentReader "[[router]]\nsingle_segment = \x7b\x7d" =
      .ok { wildcardMode := .singleSegment } :=
  ⟨rfl, rfl⟩

end Config

end PathRouting
