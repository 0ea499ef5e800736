/-! # Maps in order of first insertion

A map from names to values that remembers the order in which its names were first inserted.
Inserting under a name that is present replaces the value and keeps the place. Names are distinct
by construction, so the list of entries determines the map.
-/

namespace RequestChain

/-- Replaces the first entry of that name in place, or adds an entry at the end. -/
def insertEntry {α : Type} (name : String) (value : α) :
    List (String × α) → List (String × α)
  | [] => [(name, value)]
  | entry :: rest =>
    if entry.1 = name then (name, value) :: rest else entry :: insertEntry name value rest

/-- Insertion keeps the names, and adds a new one at the end. -/
theorem map_fst_insertEntry {α : Type} (name : String) (value : α)
    (entries : List (String × α)) :
    (insertEntry name value entries).map Prod.fst =
      if name ∈ entries.map Prod.fst then entries.map Prod.fst
      else entries.map Prod.fst ++ [name] := by
  induction entries with
  | nil => simp [insertEntry]
  | cons entry rest ih =>
    by_cases same : entry.1 = name
    · simp [insertEntry, same]
    · have other : ¬ name = entry.1 := fun h => same h.symm
      by_cases known : name ∈ rest.map Prod.fst
      · simp [insertEntry, same, other, ih, known]
      · simp [insertEntry, same, other, ih, known]

/-- Distinct names stay distinct. -/
theorem nodup_insertEntry {α : Type} (name : String) (value : α)
    {entries : List (String × α)} (nodup : (entries.map Prod.fst).Nodup) :
    ((insertEntry name value entries).map Prod.fst).Nodup := by
  rw [map_fst_insertEntry]
  split
  · exact nodup
  · rename_i fresh
    refine List.nodup_append.mpr ⟨nodup, by simp, ?_⟩
    intro left inEntries right isName
    simp only [List.mem_singleton] at isName
    exact fun same => fresh (isName ▸ same ▸ inEntries)

/-- Nothing is found under a name that no entry has. -/
theorem lookup_eq_none_of_fresh {α : Type} {name : String} {entries : List (String × α)}
    (fresh : name ∉ entries.map Prod.fst) : entries.lookup name = none := by
  refine List.lookup_eq_none_iff.mpr fun entry member => bne_iff_ne.mpr ?_
  rintro rfl
  exact fresh (List.mem_map_of_mem member)

/-- A map from distinct names to values, in order of first insertion. -/
structure OrderedMap (α : Type) where
  /-- The entries in order. -/
  entries : List (String × α)
  nodup : (entries.map Prod.fst).Nodup

namespace OrderedMap

variable {α β : Type}

/-- The map without entries. -/
def empty : OrderedMap α := ⟨[], by simp⟩

instance : Inhabited (OrderedMap α) := ⟨empty⟩

instance : EmptyCollection (OrderedMap α) := ⟨empty⟩

instance [BEq α] : BEq (OrderedMap α) := ⟨fun left right => left.entries == right.entries⟩

instance [Repr α] : Repr (OrderedMap α) := ⟨fun map depth => reprPrec map.entries depth⟩

/-- The entries determine the map. -/
@[ext] theorem ext {left right : OrderedMap α} (same : left.entries = right.entries) :
    left = right := by
  cases left; cases right; cases same; rfl

instance [DecidableEq α] : DecidableEq (OrderedMap α) := fun left right =>
  if same : left.entries = right.entries then isTrue (ext same)
  else isFalse fun equal => same (congrArg entries equal)

/-- The names in order. -/
def keys (map : OrderedMap α) : List String :=
  map.entries.map Prod.fst

/-- The values in order. -/
def values (map : OrderedMap α) : List α :=
  map.entries.map Prod.snd

/-- The value under a name. -/
def get? (map : OrderedMap α) (name : String) : Option α :=
  map.entries.lookup name

/-- Whether the map has an entry of that name. -/
def contains (map : OrderedMap α) (name : String) : Bool :=
  map.keys.contains name

/-- Whether the map has no entries. -/
def isEmpty (map : OrderedMap α) : Bool :=
  map.entries.isEmpty

/-- A known name keeps its place and gets the value; a new name comes last. -/
def insert (map : OrderedMap α) (name : String) (value : α) : OrderedMap α :=
  ⟨insertEntry name value map.entries, nodup_insertEntry name value map.nodup⟩

/-- The entries of `additions` inserted one after the other. -/
def extend (map : OrderedMap α) (additions : List (String × α)) : OrderedMap α :=
  additions.foldl (fun current entry => current.insert entry.1 entry.2) map

/-- The entries of `overrides` inserted into `base`. -/
def union (base overrides : OrderedMap α) : OrderedMap α :=
  base.extend overrides.entries

/-- The map of a list of entries, a later entry replacing an earlier one in its place. -/
def ofList (entries : List (String × α)) : OrderedMap α :=
  empty.extend entries

/-- The map without the entry of that name. -/
def erase (map : OrderedMap α) (name : String) : OrderedMap α :=
  ⟨map.entries.filter (·.1 ≠ name),
    map.nodup.sublist ((List.filter_sublist (l := map.entries)).map Prod.fst)⟩

/-- The same names with other values. -/
def mapValues (f : α → β) (map : OrderedMap α) : OrderedMap β :=
  ⟨map.entries.map fun entry => (entry.1, f entry.2), by
    simpa [List.map_map, Function.comp_def] using map.nodup⟩

/-- The same names with values that depend on the name. -/
def mapEntries (f : String → α → β) (map : OrderedMap α) : OrderedMap β :=
  ⟨map.entries.map fun entry => (entry.1, f entry.1 entry.2), by
    simpa [List.map_map, Function.comp_def] using map.nodup⟩

theorem keys_mapEntries (f : String → α → β) (map : OrderedMap α) :
    (map.mapEntries f).keys = map.keys := by
  simp [mapEntries, keys, Function.comp_def]

theorem get?_mapEntries (f : String → α → β) (map : OrderedMap α) (name : String) :
    (map.mapEntries f).get? name = (map.get? name).map (f name) := by
  obtain ⟨entries, nodup⟩ := map
  simp only [mapEntries, get?]
  clear nodup
  induction entries with
  | nil => rfl
  | cons entry rest ih =>
    obtain ⟨key, held⟩ := entry
    by_cases asked : name = key
    · subst asked
      simp
    · have differ : (name == key) = false := beq_eq_false_iff_ne.mpr asked
      simp [List.lookup_cons, differ, ih]

theorem get?_mapValues (f : α → β) (map : OrderedMap α) (name : String) :
    (map.mapValues f).get? name = (map.get? name).map f :=
  get?_mapEntries (fun _ => f) map name

theorem contains_eq_false_iff {map : OrderedMap α} {name : String} :
    map.contains name = false ↔ name ∉ map.keys := by
  simp [contains]

/-- A name without an entry has no value. -/
theorem get?_eq_none_of_not_mem (map : OrderedMap α) {name : String} (unknown : name ∉ map.keys) :
    map.get? name = none :=
  lookup_eq_none_of_fresh unknown

@[simp] theorem keys_empty : (empty : OrderedMap α).keys = [] := rfl

theorem keys_insert (map : OrderedMap α) (name : String) (value : α) :
    (map.insert name value).keys =
      if name ∈ map.keys then map.keys else map.keys ++ [name] :=
  map_fst_insertEntry name value map.entries

/-- A new name comes last. -/
theorem entries_insert_of_fresh (map : OrderedMap α) {name : String} (value : α)
    (fresh : name ∉ map.keys) : (map.insert name value).entries = map.entries ++ [(name, value)] := by
  obtain ⟨entries, nodup⟩ := map
  simp only [insert, keys] at fresh ⊢
  clear nodup
  induction entries with
  | nil => rfl
  | cons entry rest ih =>
    rw [List.map_cons, List.mem_cons, not_or] at fresh
    rw [insertEntry, if_neg (Ne.symm fresh.1), ih fresh.2]
    rfl

/-- New entries come last, in their order. -/
theorem entries_extend (map : OrderedMap α) (additions : List (String × α))
    (distinct : (map.keys ++ additions.map Prod.fst).Nodup) :
    (map.extend additions).entries = map.entries ++ additions := by
  induction additions generalizing map with
  | nil => simp [extend]
  | cons entry rest ih =>
    have fresh : entry.1 ∉ map.keys := fun known =>
      (List.nodup_append.mp distinct).2.2 _ known _ (by simp) rfl
    have inserted : (map.insert entry.1 entry.2).entries = map.entries ++ [entry] :=
      map.entries_insert_of_fresh entry.2 fresh
    have split : map.keys ++ (entry :: rest).map Prod.fst =
        (map.insert entry.1 entry.2).keys ++ rest.map Prod.fst := by
      rw [keys_insert, if_neg fresh, List.map_cons, List.append_assoc, List.singleton_append]
    rw [split] at distinct
    calc (map.extend (entry :: rest)).entries
        = ((map.insert entry.1 entry.2).extend rest).entries := rfl
      _ = map.entries ++ [entry] ++ rest := by rw [ih _ distinct, inserted]
      _ = map.entries ++ entry :: rest := by rw [List.append_assoc, List.singleton_append]

/-- New names come last, in their order. -/
theorem keys_extend (map : OrderedMap α) (additions : List (String × α))
    (distinct : (map.keys ++ additions.map Prod.fst).Nodup) :
    (map.extend additions).keys = map.keys ++ additions.map Prod.fst := by
  rw [keys, entries_extend map additions distinct, List.map_append]
  rfl

/-- The map of a list of entries with distinct names has these entries. -/
theorem entries_ofList {entries : List (String × α)} (distinct : (entries.map Prod.fst).Nodup) :
    (ofList entries).entries = entries :=
  entries_extend empty entries distinct

/-- The value under a known name has the index of the name. -/
theorem get?_eq_getElem? (map : OrderedMap α) {name : String} (known : name ∈ map.keys) :
    map.get? name = map.values[map.keys.idxOf name]? := by
  obtain ⟨entries, nodup⟩ := map
  simp only [get?, keys, values] at known ⊢
  clear nodup
  induction entries with
  | nil => cases known
  | cons entry rest ih =>
    obtain ⟨key, held⟩ := entry
    by_cases asked : name = key
    · subst asked
      simp
    · have differ : (name == key) = false := beq_eq_false_iff_ne.mpr asked
      have differ' : (key == name) = false := beq_eq_false_iff_ne.mpr (Ne.symm asked)
      have others : name ∈ rest.map Prod.fst := by simpa [asked] using known
      simp [List.lookup_cons, List.idxOf_cons, differ, differ', ih others]

/-- A name has a value if it is one of the names. -/
theorem isSome_get?_iff (map : OrderedMap α) {name : String} :
    (map.get? name).isSome ↔ name ∈ map.keys := by
  by_cases known : name ∈ map.keys
  · have lengths : map.values.length = map.keys.length := by simp [values, keys]
    have within := List.idxOf_lt_length_iff.mpr known
    rw [map.get?_eq_getElem? known, List.getElem?_eq_getElem (lengths ▸ within)]
    exact iff_of_true rfl known
  · rw [map.get?_eq_none_of_not_mem known]
    exact iff_of_false Bool.false_ne_true known

theorem mem_values_of_get? {map : OrderedMap α} {name : String} {value : α}
    (found : map.get? name = some value) : value ∈ map.values := by
  obtain ⟨before, after, shape, -⟩ := List.lookup_eq_some_iff.mp found
  rw [values, shape]
  simp

/-- The inserted value is found, and other names are not affected. -/
theorem get?_insert (map : OrderedMap α) (name other : String) (value : α) :
    (map.insert name value).get? other = if other = name then some value else map.get? other := by
  obtain ⟨entries, nodup⟩ := map
  simp only [insert, get?]
  clear nodup
  induction entries with
  | nil =>
    by_cases same : other = name
    · simp [insertEntry, same]
    · have differ : (other == name) = false := beq_eq_false_iff_ne.mpr same
      simp [insertEntry, same, List.lookup_cons, differ]
  | cons entry rest ih =>
    obtain ⟨key, held⟩ := entry
    by_cases same : key = name
    · subst same
      by_cases asked : other = key
      · simp [insertEntry, asked]
      · have differ : (other == key) = false := beq_eq_false_iff_ne.mpr asked
        simp [insertEntry, asked, List.lookup_cons, differ]
    · by_cases asked : other = key
      · subst asked
        simp [insertEntry, same]
      · have differ : (other == key) = false := beq_eq_false_iff_ne.mpr asked
        simp [insertEntry, same, List.lookup_cons, differ, ih]

/-- The erased name has no value, and other names are not affected. -/
theorem get?_erase (map : OrderedMap α) (name other : String) :
    (map.erase name).get? other = if other = name then none else map.get? other := by
  obtain ⟨entries, nodup⟩ := map
  simp only [erase, get?]
  clear nodup
  induction entries with
  | nil => simp
  | cons entry rest ih =>
    obtain ⟨key, held⟩ := entry
    by_cases same : key = name
    · rw [List.filter_cons_of_neg (by simpa using same), ih]
      by_cases asked : other = name
      · rw [if_pos asked, if_pos asked]
      · have differ : (other == key) = false := beq_eq_false_iff_ne.mpr (same ▸ asked)
        rw [if_neg asked, if_neg asked, List.lookup_cons, differ]
    · rw [List.filter_cons_of_pos (by simpa using same), List.lookup_cons, List.lookup_cons, ih]
      by_cases asked : other = key
      · subst asked
        simp [same]
      · have differ : (other == key) = false := beq_eq_false_iff_ne.mpr asked
        rw [differ]

/-- A value is found under its name. -/
theorem get?_of_mem (map : OrderedMap α) {entry : String × α} (member : entry ∈ map.entries) :
    map.get? entry.1 = some entry.2 := by
  obtain ⟨before, after, shape⟩ := List.append_of_mem member
  apply List.lookup_eq_some_iff.mpr
  refine ⟨before, after, shape, ?_⟩
  intro other isBefore
  have distinct := map.nodup
  rw [shape, List.map_append, List.nodup_append] at distinct
  apply bne_iff_ne.mpr
  intro same
  exact distinct.2.2 other.1 (List.mem_map_of_mem isBefore) entry.1 (by simp) same.symm

/-- Distinct names are added once each, over what the map had. -/
theorem get?_extend (map : OrderedMap α) {additions : List (String × α)}
    (distinct : (additions.map Prod.fst).Nodup) (name : String) :
    (map.extend additions).get? name = (additions.lookup name).or (map.get? name) := by
  induction additions generalizing map with
  | nil => rfl
  | cons entry rest ih =>
    obtain ⟨fresh, apart⟩ := List.nodup_cons.mp distinct
    have inserted : (map.extend (entry :: rest)).get? name =
        (rest.lookup name).or ((map.insert entry.1 entry.2).get? name) := ih _ apart
    rw [inserted, get?_insert]
    by_cases asked : name = entry.1
    · rw [asked, lookup_eq_none_of_fresh fresh, if_pos rfl, List.lookup_cons_self]
      rfl
    · have differ : (name == entry.1) = false := beq_eq_false_iff_ne.mpr asked
      rw [if_neg asked, List.lookup_cons, differ]

theorem get?_union (base overrides : OrderedMap α) (name : String) :
    (base.union overrides).get? name = (overrides.get? name).or (base.get? name) :=
  base.get?_extend overrides.nodup name

/-- Known names keep their places, and new ones come last in their order. -/
theorem keys_union (base overrides : OrderedMap α) :
    (base.union overrides).keys = base.keys ++ overrides.keys.filter (· ∉ base.keys) := by
  obtain ⟨additions, distinct⟩ := overrides
  change (base.extend additions).keys = base.keys ++ (additions.map Prod.fst).filter _
  induction additions generalizing base with
  | nil => exact (List.append_nil base.keys).symm
  | cons entry rest ih =>
    obtain ⟨fresh, apart⟩ := List.nodup_cons.mp distinct
    have inserted : (base.extend (entry :: rest)).keys = _ := ih (base.insert entry.1 entry.2) apart
    rw [inserted, keys_insert, List.map_cons]
    by_cases known : entry.1 ∈ base.keys
    · rw [if_pos known, List.filter_cons_of_neg (by simpa using known)]
    · rw [if_neg known, List.filter_cons_of_pos (by simpa using known), List.append_assoc,
        List.singleton_append]
      congr 2
      apply List.filter_congr
      intro name member
      have differ : name ≠ entry.1 := fun same => fresh (same ▸ member)
      simp [differ]

end OrderedMap

end RequestChain
