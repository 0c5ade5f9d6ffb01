import PathRouting.Toml.Document
import PathRouting.Proofs.Table
set_option autoImplicit false

/-!
# Coherent documents

A document may be long, and any line of it may add to any of its tables, but no line defines twice
what another one defined: documents are coherent.  Binding a key keeps a table coherent
(`Coherent.bind`), and so does every change that a line makes along a path
(`Coherent.alterAt`); values are read coherent (`readValue_coherent`), and from both it follows by
induction on the lines that documents are (`coherent_of_parse?`).  In a coherent table an entry can
be looked up by its key (`Coherent.lookup_eq_some_iff`).
-/

namespace PathRouting.Toml

namespace Entries

/-! ## Coherent values -/

theorem coherent_table_iff {origin : Origin} {entries : Entries} :
    (Value.table origin entries).Coherent ↔ entries.Coherent := by
  constructor
  · rintro ⟨⟩
    exact ⟨‹_›, ‹_›⟩
  · exact fun hentries => .table origin hentries.keys hentries.values

theorem coherent_nil : Coherent [] :=
  ⟨List.nodup_nil, by simp⟩

/-- One table more may stand behind other tables. -/
theorem coherent_tables_concat {items : List Value}
    (htables : ∀ item ∈ items, ∃ origin entries, item = .table origin entries)
    (hitems : ∀ item ∈ items, item.Coherent) (origin : Origin) {entries : Entries}
    (hentries : entries.Coherent) :
    (Value.tables (items ++ [.table origin entries])).Coherent := by
  refine .tables (by simp) (fun item hitem => ?_) fun item hitem => ?_
  · obtain hfront | hlast := List.mem_append.mp hitem
    · exact htables item hfront
    · exact ⟨origin, entries, List.mem_singleton.mp hlast⟩
  · obtain hfront | hlast := List.mem_append.mp hitem
    · exact hitems item hfront
    · rw [List.mem_singleton.mp hlast]
      exact coherent_table_iff.mpr hentries

theorem lookup_eq_none_iff {entries : Entries} {key : String} :
    entries.lookup key = none ↔ ∀ value, (key, value) ∉ entries := by
  rw [List.lookup_eq_none_iff]
  constructor
  · intro hfree value hmem
    simpa using hfree (key, value) hmem
  · rintro hfree ⟨other, value⟩ hmem
    simpa using fun hsame : key = other => hfree value (hsame ▸ hmem)

/-- Where each key stands for one value, the lookup of a key gives the value in its entry. -/
theorem Coherent.lookup_eq_some_iff {entries : Entries} (hentries : entries.Coherent)
    {key : String} {value : Value} :
    entries.lookup key = some value ↔ (key, value) ∈ entries :=
  ⟨Table.mem_of_lookup, Table.lookup_of_mem hentries.keys⟩

theorem Coherent.of_lookup {entries : Entries} (hentries : entries.Coherent) {key : String}
    {value : Value} (hbound : entries.lookup key = some value) : value.Coherent :=
  hentries.values _ (Table.mem_of_lookup hbound)

/-! ## Changes to a table -/

theorem Coherent.bind {entries : Entries} (hentries : entries.Coherent) {value : Value}
    (hvalue : value.Coherent) (key : String) : (entries.bind key value).Coherent := by
  unfold Entries.bind
  split
  · have hkeys := hentries.keys
    rw [← Table.keys_rebind key value entries] at hkeys
    refine ⟨hkeys, fun entry hentry => ?_⟩
    obtain ⟨old, hold, rfl⟩ := List.mem_map.mp hentry
    by_cases hkey : old.1 = key
    · simpa [hkey] using hvalue
    · simpa [hkey] using hentries.values old hold
  · next hfree =>
    have hnone := lookup_eq_none_iff.mp (Option.not_isSome_iff_eq_none.mp hfree)
    constructor
    · rw [List.map_append, List.nodup_append]
      refine ⟨hentries.keys, by simp, fun other hother last hlast hsame => ?_⟩
      obtain ⟨⟨here, bound⟩, hmem, rfl⟩ := List.mem_map.mp hother
      have hlastKey : last = key := by simpa using hlast
      have hhere : here = key := hsame.trans hlastKey
      exact hnone bound (hhere ▸ hmem)
    · intro entry hentry
      obtain hold | hnew := List.mem_append.mp hentry
      · exact hentries.values entry hold
      · rw [List.mem_singleton.mp hnew]
        exact hvalue

/-- A change along a path is coherent when it is so at the end of the path. -/
theorem Coherent.alterAt {byDots : Bool} {change : Origin → Entries → Option Entries}
    (hchange : ∀ origin entries changed, change origin entries = some changed →
      entries.Coherent → changed.Coherent)
    {path : List String} {origin : Origin} {entries changed : Entries}
    (halter : Entries.alterAt byDots change path origin entries = some changed)
    (hentries : entries.Coherent) : changed.Coherent := by
  induction path generalizing origin entries changed with
  | nil => exact hchange origin entries changed halter hentries
  | cons key rest ih =>
    simp only [Entries.alterAt] at halter
    split at halter
    · -- The key is new: the rest of the path is made of tables without entries.
      obtain ⟨inner, hinner, rfl⟩ := Option.map_eq_some_iff.mp halter
      exact hentries.bind (coherent_table_iff.mpr (ih hinner coherent_nil)) key
    · simp at halter
    · next hbound =>
      split at halter
      · simp at halter
      · obtain ⟨inner, hinner, rfl⟩ := Option.map_eq_some_iff.mp halter
        have hold := coherent_table_iff.mp (hentries.of_lookup hbound)
        exact hentries.bind (coherent_table_iff.mpr (ih hinner hold)) key
    · next items hbound =>
      -- The path goes on in the last of the tables, and the others stay.
      split at halter
      · next last old hlast =>
        obtain ⟨inner, hinner, rfl⟩ := Option.map_eq_some_iff.mp halter
        cases hentries.of_lookup hbound with
        | tables hsome htables hitems =>
          have hold := coherent_table_iff.mp (hitems _ (List.mem_of_getLast? hlast))
          have hfront : ∀ item ∈ items.dropLast, item ∈ items :=
            fun item hitem => List.dropLast_subset items hitem
          exact hentries.bind (coherent_tables_concat
            (fun item hitem => htables item (hfront item hitem))
            (fun item hitem => hitems item (hfront item hitem)) last (ih hinner hold)) key
      · simp at halter
    · simp at halter

theorem Coherent.define {path : List String} {key : String} {value : Value}
    (hvalue : value.Coherent) {origin : Origin} {entries changed : Entries}
    (hdefine : Entries.define path key value origin entries = some changed)
    (hentries : entries.Coherent) : changed.Coherent := by
  refine Coherent.alterAt (fun origin entries changed hchange hhere => ?_) hdefine hentries
  split at hchange
  · simp at hchange
  · split at hchange
    · simp at hchange
    · rw [← Option.some.inj hchange]
      exact hhere.bind hvalue key

theorem Coherent.openTable {path : List String} {key : String} {origin : Origin}
    {entries changed : Entries}
    (hopen : Entries.openTable path key origin entries = some changed)
    (hentries : entries.Coherent) : changed.Coherent := by
  refine Coherent.alterAt (fun origin entries changed hchange hhere => ?_) hopen hentries
  split at hchange
  · rw [← Option.some.inj hchange]
    exact hhere.bind (coherent_table_iff.mpr coherent_nil) key
  · next hbound =>
    rw [← Option.some.inj hchange]
    exact hhere.bind (coherent_table_iff.mpr (coherent_table_iff.mp (hhere.of_lookup hbound))) key
  · simp at hchange

theorem Coherent.addTable {path : List String} {key : String} {origin : Origin}
    {entries changed : Entries}
    (hadd : Entries.addTable path key origin entries = some changed)
    (hentries : entries.Coherent) : changed.Coherent := by
  refine Coherent.alterAt (fun origin entries changed hchange hhere => ?_) hadd hentries
  split at hchange
  · rw [← Option.some.inj hchange]
    have hfirst : (Value.tables ([] ++ [.table .header []])).Coherent :=
      coherent_tables_concat (by simp) (by simp) .header coherent_nil
    exact hhere.bind hfirst key
  · next hbound =>
    rw [← Option.some.inj hchange]
    cases hhere.of_lookup hbound with
    | tables hsome htables hitems =>
      exact hhere.bind (coherent_tables_concat htables hitems .header coherent_nil) key
  · simp at hchange

end Entries

/-! ## Reading values -/

/-- Does all that a reader reads have a property? -/
def Yields {α : Type} (property : α → Prop) (read : List Char → Option (α × List Char)) : Prop :=
  ∀ {text : List Char} {result : α} {left : List Char},
    read text = some (result, left) → property result

theorem readScalar_coherent : Yields Value.Coherent readScalar := by
  intro text value left hread
  unfold readScalar at hread
  split at hread
  · simp at hread
  · split at hread
    · obtain ⟨⟨chars, rest⟩, -, hvalue⟩ := Option.map_eq_some_iff.mp hread
      cases hvalue
      exact .string _
    · split at hread
      · cases hread
        exact .boolean true
      · split at hread
        · cases hread
          exact .boolean false
        · split at hread
          · cases hread
            exact .datetime _
          · split at hread
            · cases hread
              exact .float _
            · obtain ⟨⟨number, rest⟩, -, hvalue⟩ := Option.map_eq_some_iff.mp hread
              cases hvalue
              exact .integer number

section Nested

variable {readItem : List Char → Option (Value × List Char)}

theorem readItems_coherent (hitem : Yields Value.Coherent readItem) (rounds : Nat) :
    Yields (fun items => ∀ item ∈ items, item.Coherent) (readItems readItem rounds) := by
  induction rounds with
  | zero => exact fun hread => by simp [readItems] at hread
  | succ rounds ih =>
    intro text items left hread
    simp only [readItems] at hread
    split at hread
    · cases hread
      simp
    · obtain ⟨⟨item, afterItem⟩, hfirst, hrest⟩ := Option.bind_eq_some_iff.mp hread
      simp only at hrest
      split at hrest
      · cases hrest
        simpa using hitem hfirst
      · obtain ⟨⟨others, behind⟩, hothers, hsome⟩ := Option.map_eq_some_iff.mp hrest
        cases hsome
        simpa using ⟨hitem hfirst, ih hothers⟩
      · simp at hrest

theorem readPair_coherent (hitem : Yields Value.Coherent readItem) :
    Yields (fun pair => pair.2.Coherent) (readPair readItem) := by
  intro text pair left hread
  obtain ⟨⟨key, afterKey⟩, -, hrest⟩ := Option.bind_eq_some_iff.mp hread
  simp only at hrest
  split at hrest
  · obtain ⟨⟨value, behind⟩, hvalue, hsome⟩ := Option.map_eq_some_iff.mp hrest
    cases hsome
    exact hitem hvalue
  · simp at hrest

theorem readPairs_coherent (hitem : Yields Value.Coherent readItem) (rounds : Nat)
    {entries : Entries} (hentries : entries.Coherent) :
    Yields Entries.Coherent (readPairs readItem rounds entries) := by
  induction rounds generalizing entries with
  | zero => exact fun hread => by simp [readPairs] at hread
  | succ rounds ih =>
    intro text result left hread
    obtain ⟨⟨⟨key, value⟩, afterPair⟩, hpair, hrest⟩ := Option.bind_eq_some_iff.mp hread
    obtain ⟨extended, hdefine, hmore⟩ := Option.bind_eq_some_iff.mp hrest
    have hextended : extended.Coherent :=
      Entries.Coherent.define (readPair_coherent hitem hpair) hdefine hentries
    split at hmore
    · cases hmore
      exact hextended
    · exact ih hextended hmore
    · simp at hmore

end Nested

theorem readValue_coherent (depth : Nat) : Yields Value.Coherent (readValue depth) := by
  induction depth with
  | zero => exact readScalar_coherent
  | succ depth ih =>
    intro text value left hread
    unfold readValue at hread
    split at hread
    · obtain ⟨⟨items, behind⟩, hitems, hsome⟩ := Option.map_eq_some_iff.mp hread
      cases hsome
      exact .array (readItems_coherent ih _ hitems)
    · split at hread
      · cases hread
        exact Entries.coherent_table_iff.mpr Entries.coherent_nil
      · obtain ⟨⟨entries, behind⟩, hentries, hsome⟩ := Option.map_eq_some_iff.mp hread
        cases hsome
        exact Entries.coherent_table_iff.mpr
          (readPairs_coherent ih _ Entries.coherent_nil hentries)
    · exact readScalar_coherent hread

/-! ## Lines -/

/-- A line is coherent when the value that it defines is, if it defines one. -/
def Line.Coherent : Line → Prop
  | .pair _ value => value.Coherent
  | .table _ => True
  | .addedTable _ => True

theorem readLine_coherent : Yields Line.Coherent readLine := by
  intro text line left hread
  unfold readLine at hread
  split at hread
  · obtain ⟨⟨key, behind⟩, -, hsome⟩ := Option.map_eq_some_iff.mp hread
    cases hsome
    trivial
  · obtain ⟨⟨key, behind⟩, -, hsome⟩ := Option.map_eq_some_iff.mp hread
    cases hsome
    trivial
  · obtain ⟨⟨⟨key, value⟩, behind⟩, hpair, hsome⟩ := Option.map_eq_some_iff.mp hread
    cases hsome
    exact readPair_coherent (readValue_coherent _) hpair

theorem readLines_coherent {rounds : Nat} {text : List Char} {lines : List Line}
    (hread : readLines rounds text = some lines) : ∀ line ∈ lines, line.Coherent := by
  induction rounds generalizing text lines with
  | zero => simp [readLines] at hread
  | succ rounds ih =>
    simp only [readLines] at hread
    split at hread
    · cases hread
      simp
    · obtain ⟨⟨line, afterLine⟩, hline, hrest⟩ := Option.bind_eq_some_iff.mp hread
      obtain ⟨left, -, hmore⟩ := Option.bind_eq_some_iff.mp hrest
      obtain ⟨others, hothers, rfl⟩ := Option.map_eq_some_iff.mp hmore
      simpa using ⟨readLine_coherent hline, ih hothers⟩

/-- One line keeps a document coherent. -/
theorem Draft.add_coherent {draft next : Draft} {line : Line} (hadd : draft.add line = some next)
    (hline : line.Coherent) (hdraft : draft.entries.Coherent) : next.entries.Coherent := by
  cases line with
  | pair key value =>
    obtain ⟨entries, halter, rfl⟩ := Option.map_eq_some_iff.mp hadd
    exact Entries.Coherent.alterAt
      (fun origin entries changed hdefine => Entries.Coherent.define hline hdefine) halter hdraft
  | table key =>
    obtain ⟨entries, hopen, rfl⟩ := Option.map_eq_some_iff.mp hadd
    exact Entries.Coherent.openTable hopen hdraft
  | addedTable key =>
    obtain ⟨entries, hadded, rfl⟩ := Option.map_eq_some_iff.mp hadd
    exact Entries.Coherent.addTable hadded hdraft

theorem Draft.addAll_coherent {draft final : Draft} {lines : List Line}
    (hadd : draft.addAll lines = some final) (hlines : ∀ line ∈ lines, line.Coherent)
    (hdraft : draft.entries.Coherent) : final.entries.Coherent := by
  induction lines generalizing draft with
  | nil =>
    cases hadd
    exact hdraft
  | cons line rest ih =>
    obtain ⟨next, hnext, hrest⟩ := Option.bind_eq_some_iff.mp hadd
    exact ih hrest (fun other hother => hlines other (List.mem_cons_of_mem _ hother))
      (Draft.add_coherent hnext (hlines line List.mem_cons_self) hdraft)

/-- In a document every key stands for one value, at every level. -/
theorem coherent_of_parse? {text : String} {document : Entries}
    (hparse : parse? text = some document) : document.Coherent := by
  obtain ⟨lines, hlines, hdraft⟩ := Option.bind_eq_some_iff.mp hparse
  obtain ⟨draft, hadd, rfl⟩ := Option.map_eq_some_iff.mp hdraft
  exact Draft.addAll_coherent hadd (readLines_coherent hlines) Entries.coherent_nil

end PathRouting.Toml
