import PathRouting.Table
set_option autoImplicit false

/-!
# Laws of tables

A table is determined by what it binds: `get?_insert` and `get?_erase` say what an insertion and an
erasure do to the bindings, `sorted_insert` and `sorted_erase` that they keep the order of the keys,
and `eq_of_get?_eq` that two ordered tables with the same bindings are the same table.
-/

namespace PathRouting.Table

variable {α : Type}

/-! ## Bindings -/

@[simp] theorem get?_empty (key : String) : (empty : Table α).get? key = none := rfl

theorem get?_eq_none_of_not_contains {table : Table α} {key : String}
    (hfree : ¬ table.contains key = true) : table.get? key = none := by
  unfold contains at hfree
  exact Option.not_isSome_iff_eq_none.mp hfree

theorem lookup_rebind_self {key : String} (value : α) {entries : List (String × α)}
    (hbound : (entries.lookup key).isSome = true) :
    (rebind key value entries).lookup key = some value := by
  induction entries with
  | nil => simp at hbound
  | cons entry rest ih =>
    obtain ⟨other, bound⟩ := entry
    by_cases hkey : other = key
    · simp [rebind, hkey]
    · have hne : (key == other) = false := by simpa using Ne.symm hkey
      simp only [List.lookup_cons, hne] at hbound
      simp only [rebind, List.map_cons, hkey, if_false, List.lookup_cons, hne]
      exact ih hbound

theorem lookup_rebind_of_ne {key other : String} (value : α) (hne : other ≠ key)
    (entries : List (String × α)) :
    (rebind key value entries).lookup other = entries.lookup other := by
  induction entries with
  | nil => rfl
  | cons entry rest ih =>
    obtain ⟨here, bound⟩ := entry
    simp only [rebind] at ih
    by_cases hkey : here = key
    · have hother : (other == key) = false := by simpa using hne
      simp [rebind, hkey, List.lookup_cons, hother, ih]
    · simp [rebind, hkey, List.lookup_cons, ih]

theorem lookup_enter_self {key : String} (value : α) {entries : List (String × α)}
    (hfree : entries.lookup key = none) :
    (enter key value entries).lookup key = some value := by
  induction entries with
  | nil => simp [enter]
  | cons entry rest ih =>
    obtain ⟨other, bound⟩ := entry
    cases hsame : key == other with
    | true => simp [List.lookup_cons, hsame] at hfree
    | false =>
      simp only [List.lookup_cons, hsame] at hfree
      unfold enter
      split
      · simp
      · simp only [List.lookup_cons, hsame]
        exact ih hfree

theorem lookup_enter_of_ne {key other : String} (value : α) (hne : other ≠ key)
    (entries : List (String × α)) :
    (enter key value entries).lookup other = entries.lookup other := by
  have hother : (other == key) = false := by simpa using hne
  induction entries with
  | nil => simp [enter, List.lookup_cons, hother]
  | cons entry rest ih =>
    obtain ⟨here, bound⟩ := entry
    unfold enter
    split
    · simp [List.lookup_cons, hother]
    · simp [List.lookup_cons, ih]

/-- An insertion binds its own key and leaves the other bindings alone. -/
theorem get?_insert (table : Table α) (key other : String) (value : α) :
    (table.insert key value).get? other = if other = key then some value else table.get? other := by
  unfold insert
  by_cases hbound : table.contains key = true
  · rw [if_pos hbound]
    split
    · next hsame =>
      subst hsame
      exact lookup_rebind_self value hbound
    · next hne => exact lookup_rebind_of_ne value hne table.entries
  · rw [if_neg hbound]
    split
    · next hsame =>
      subst hsame
      exact lookup_enter_self value (get?_eq_none_of_not_contains hbound)
    · next hne => exact lookup_enter_of_ne value hne table.entries

/-- Taking a binding away leaves the other bindings alone. -/
theorem get?_erase (table : Table α) (key other : String) :
    (table.erase key).get? other = if other = key then none else table.get? other := by
  unfold erase get?
  induction table.entries with
  | nil => simp
  | cons entry rest ih =>
    obtain ⟨here, bound⟩ := entry
    by_cases hkey : here = key
    · subst hkey
      rw [List.filter_cons_of_neg (by simp), ih, List.lookup_cons]
      cases hother : other == here with
      | true => simp [beq_iff_eq.mp hother]
      | false => simp
    · rw [List.filter_cons_of_pos (by simpa using hkey), List.lookup_cons, List.lookup_cons, ih]
      cases hother : other == here with
      | true => simp [beq_iff_eq.mp hother, hkey]
      | false => simp

/-- What holds of a new binding and of the old ones of other keys, holds of every binding. -/
theorem forall_get?_insert {table : Table α} {key : String} {value : α}
    (property : String → α → Prop) (hnew : property key value)
    (hold : ∀ {other bound}, other ≠ key → table.get? other = some bound → property other bound)
    {other : String} {bound : α} (hbound : (table.insert key value).get? other = some bound) :
    property other bound := by
  rw [get?_insert] at hbound
  split at hbound
  · next hsame =>
    rw [hsame, ← Option.some.inj hbound]
    exact hnew
  · next hne => exact hold hne hbound

/-! ## Order -/

theorem sorted_empty : (empty : Table α).Sorted := List.Pairwise.nil

theorem keys_rebind (key : String) (value : α) (entries : List (String × α)) :
    (rebind key value entries).map (·.1) = entries.map (·.1) := by
  rw [rebind, List.map_map]
  refine List.map_congr_left fun entry _ => ?_
  by_cases hkey : entry.1 = key
  · simp [hkey]
  · simp [hkey]

theorem mem_enter {key : String} {value : α} {entry : String × α}
    {entries : List (String × α)} (h : entry ∈ enter key value entries) :
    entry = (key, value) ∨ entry ∈ entries := by
  induction entries with
  | nil => exact Or.inl (List.mem_singleton.mp h)
  | cons first rest ih =>
    obtain ⟨other, bound⟩ := first
    unfold enter at h
    split at h
    · exact List.mem_cons.mp h
    · cases List.mem_cons.mp h with
      | inl hfirst => exact Or.inr (hfirst ▸ List.mem_cons_self)
      | inr hrest =>
        cases ih hrest with
        | inl hnew => exact Or.inl hnew
        | inr hold => exact Or.inr (List.mem_cons_of_mem _ hold)

theorem pairwise_enter {key : String} (value : α) {entries : List (String × α)}
    (hfree : entries.lookup key = none)
    (hsorted : entries.Pairwise fun a b => a.1 < b.1) :
    (enter key value entries).Pairwise fun a b => a.1 < b.1 := by
  induction entries with
  | nil => exact List.pairwise_singleton _ _
  | cons first rest ih =>
    obtain ⟨other, bound⟩ := first
    obtain ⟨hfirst, hrest⟩ := List.pairwise_cons.mp hsorted
    unfold enter
    split
    · next hlt =>
      refine List.pairwise_cons.mpr ⟨fun entry hmem => ?_, hsorted⟩
      cases List.mem_cons.mp hmem with
      | inl hhead => exact hhead ▸ hlt
      | inr htail => exact String.lt_trans hlt (hfirst entry htail)
    · next hnot =>
      cases hsame : key == other with
      | true => simp [List.lookup_cons, hsame] at hfree
      | false =>
        simp only [List.lookup_cons, hsame] at hfree
        refine List.pairwise_cons.mpr ⟨fun entry hmem => ?_, ih hfree hrest⟩
        cases mem_enter hmem with
        | inl hnew =>
          subst hnew
          have hle : other ≤ key := String.not_lt.mp hnot
          refine String.not_le.mp fun hge => ?_
          exact (beq_eq_false_iff_ne.mp hsame) (String.le_antisymm hge hle)
        | inr hold => exact hfirst entry hold

theorem sorted_insert {table : Table α} (hsorted : table.Sorted) (key : String) (value : α) :
    (table.insert key value).Sorted := by
  unfold insert
  by_cases hbound : table.contains key = true
  · rw [if_pos hbound]
    have hkeys : ((rebind key value table.entries).map (·.1)).Pairwise (· < ·) := by
      rw [keys_rebind]
      exact List.pairwise_map.mpr hsorted
    exact List.pairwise_map.mp hkeys
  · rw [if_neg hbound]
    exact pairwise_enter value (get?_eq_none_of_not_contains hbound) hsorted

theorem sorted_erase {table : Table α} (hsorted : table.Sorted) (key : String) :
    (table.erase key).Sorted :=
  List.Pairwise.filter _ hsorted

/-! ## Tables and their bindings -/

theorem lookup_eq_none_of_lt {key : String} {entries : List (String × α)}
    (hlt : ∀ entry ∈ entries, key < entry.1) : entries.lookup key = none := by
  rw [List.lookup_eq_none_iff]
  intro entry hmem
  have hne : key ≠ entry.1 := String.ne_of_lt (hlt entry hmem)
  simpa using hne

theorem entries_eq_of_lookup_eq {left right : List (String × α)}
    (hleft : left.Pairwise fun a b => a.1 < b.1) (hright : right.Pairwise fun a b => a.1 < b.1)
    (hsame : ∀ key, left.lookup key = right.lookup key) : left = right := by
  induction left generalizing right with
  | nil =>
    cases right with
    | nil => rfl
    | cons entry rest =>
      obtain ⟨key, value⟩ := entry
      have hnone := hsame key
      simp at hnone
  | cons first rest ih =>
    obtain ⟨key, value⟩ := first
    obtain ⟨hfirst, hrest⟩ := List.pairwise_cons.mp hleft
    cases right with
    | nil =>
      have hnone := hsame key
      simp at hnone
    | cons second others =>
      obtain ⟨other, bound⟩ := second
      obtain ⟨hsecond, hothers⟩ := List.pairwise_cons.mp hright
      -- The smaller of the two head keys would be unbound on the other side.
      have hkey : key = other := by
        by_cases hlt : key < other
        · have hunbound : ((other, bound) :: others).lookup key = none := by
            refine lookup_eq_none_of_lt fun entry hmem => ?_
            cases List.mem_cons.mp hmem with
            | inl hhead => exact hhead ▸ hlt
            | inr htail => exact String.lt_trans hlt (hsecond entry htail)
          rw [← hsame key] at hunbound
          simp at hunbound
        · by_cases hgt : other < key
          · have hunbound : ((key, value) :: rest).lookup other = none := by
              refine lookup_eq_none_of_lt fun entry hmem => ?_
              cases List.mem_cons.mp hmem with
              | inl hhead => exact hhead ▸ hgt
              | inr htail => exact String.lt_trans hgt (hfirst entry htail)
            rw [hsame other] at hunbound
            simp at hunbound
          · exact String.le_antisymm (String.not_lt.mp hgt) (String.not_lt.mp hlt)
      subst hkey
      have hvalue : value = bound := by
        have hhead := hsame key
        simpa [List.lookup_cons] using hhead
      subst hvalue
      refine congrArg _ (ih hrest hothers fun sought => ?_)
      by_cases hsought : sought = key
      · rw [hsought, lookup_eq_none_of_lt hfirst, lookup_eq_none_of_lt hsecond]
      · have htail := hsame sought
        have hne : (sought == key) = false := by simpa using hsought
        simpa only [List.lookup_cons, hne] using htail

theorem mem_of_lookup {entries : List (String × α)} {key : String} {value : α}
    (hbound : entries.lookup key = some value) : (key, value) ∈ entries := by
  obtain ⟨before, after, hsplit, -⟩ := List.lookup_eq_some_iff.mp hbound
  simp [hsplit]

/-- Where no key is there twice, a binding is found by its key. -/
theorem lookup_of_mem {entries : List (String × α)} (hkeys : (entries.map (·.1)).Nodup)
    {key : String} {value : α} (hmem : (key, value) ∈ entries) :
    entries.lookup key = some value := by
  obtain ⟨before, after, hsplit⟩ := List.append_of_mem hmem
  refine List.lookup_eq_some_iff.mpr ⟨before, after, hsplit, fun entry hentry => ?_⟩
  rw [hsplit, List.Nodup, List.pairwise_map] at hkeys
  have hne := (List.pairwise_append.mp hkeys).2.2 entry hentry (key, value) List.mem_cons_self
  simpa using Ne.symm hne

theorem mem_entries_of_get? {table : Table α} {key : String} {value : α}
    (hbound : table.get? key = some value) : (key, value) ∈ table.entries :=
  mem_of_lookup hbound

theorem get?_of_mem_entries {table : Table α} (hsorted : table.Sorted) {key : String} {value : α}
    (hmem : (key, value) ∈ table.entries) : table.get? key = some value := by
  have hkeys : (table.entries.map (·.1)).Nodup :=
    List.pairwise_map.mpr (hsorted.imp fun hlt => String.ne_of_lt hlt)
  exact lookup_of_mem hkeys hmem

/-- Two ordered tables with the same bindings are the same table. -/
theorem eq_of_get?_eq {left right : Table α} (hleft : left.Sorted) (hright : right.Sorted)
    (hsame : ∀ key, left.get? key = right.get? key) : left = right := by
  cases left
  cases right
  exact congrArg mk (entries_eq_of_lookup_eq hleft hright hsame)

/-- Binding a key to the value it has changes nothing. -/
theorem insert_eq_self {table : Table α} (hsorted : table.Sorted) {key : String} {value : α}
    (hbound : table.get? key = some value) : table.insert key value = table := by
  refine eq_of_get?_eq (sorted_insert hsorted key value) hsorted fun other => ?_
  rw [get?_insert]
  split
  · next hsame => rw [hsame, hbound]
  · rfl

end PathRouting.Table
