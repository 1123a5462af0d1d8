import Ddl.OrderedMap
import Mathlib.Data.List.Induction

/-! Look-ups in a map see the last value of each name, and new names come last. -/

namespace Ddl

namespace OrderedMap

variable {Value : Type}

/-- A look-up stops at the first entry when it has the name that is sought. -/
theorem lookup_cons_eq (known : Text) (value : Value) (rest : List (Text × Value))
    (sought : Text) :
    ((known, value) :: rest).lookup sought =
      if sought = known then some value else rest.lookup sought := by
  -- The entries are compared by a Boolean test of equality.
  by_cases same : sought = known
  · simp [same]
  · simp [List.lookup_cons, beq_eq_false_iff_ne.mpr same, same]

/-- A look-up finds nothing exactly for a name that no entry has. -/
theorem lookup_eq_none_iff_notMem {entries : List (Text × Value)} {name : Text} :
    entries.lookup name = none ↔ name ∉ entries.map Prod.fst := by
  -- An entry is found by its name, and passed over by another one.
  rw [List.lookup_eq_none_iff]
  constructor
  · intro different known
    obtain ⟨entry, member, rfl⟩ := List.mem_map.mp known
    simpa using different entry member
  · intro unknown entry member
    exact bne_iff_ne.mpr fun same => unknown (same ▸ List.mem_map_of_mem member)

/-- A look-up after an insertion sees the new value at its name and the old ones elsewhere. -/
theorem lookup_insertEntry (name : Text) (value : Value) (entries : List (Text × Value))
    (sought : Text) :
    (insertEntry name value entries).lookup sought =
      if sought = name then some value else entries.lookup sought := by
  -- The insertion stops at the first entry with the name, and so does the look-up.
  induction entries with
  | nil => rw [insertEntry, lookup_cons_eq]
  | cons entry rest ih =>
    obtain ⟨known, old⟩ := entry
    by_cases hit : known = name
    · subst known
      rw [insertEntry, if_pos rfl, lookup_cons_eq, lookup_cons_eq]
      by_cases same : sought = name <;> simp [same]
    · rw [insertEntry, if_neg hit, lookup_cons_eq, lookup_cons_eq, ih]
      by_cases same : sought = known
      · simp [same, hit]
      · simp [same]

/-- A map after an insertion gives the new value at its name and the old ones elsewhere. -/
theorem get?_insert (map : OrderedMap Value) (name : Text) (value : Value) (sought : Text) :
    (map.insert name value).get? sought =
      if sought = name then some value else map.get? sought :=
  -- Maps look their names up among the entries.
  lookup_insertEntry name value map.entries sought

/-- A new name is put at the end. -/
theorem insertEntry_new {name : Text} {entries : List (Text × Value)}
    (absent : name ∉ entries.map Prod.fst) (value : Value) :
    insertEntry name value entries = entries ++ [(name, value)] := by
  -- No entry on the way has the name.
  induction entries with
  | nil => rfl
  | cons entry rest ih =>
    simp only [List.map_cons, List.mem_cons, not_or] at absent
    simp [insertEntry, Ne.symm absent.1, ih absent.2]

/-- Inserting new names one after another puts their entries at the end. -/
theorem foldl_insert_entries (map : OrderedMap Value) (entries : List (Text × Value))
    (distinct : (map.entries.map Prod.fst ++ entries.map Prod.fst).Nodup) :
    (entries.foldl (fun map entry => map.insert entry.1 entry.2) map).entries =
      map.entries ++ entries := by
  -- Each name is new to the map that the earlier ones have built.
  induction entries generalizing map with
  | nil => simp
  | cons entry rest ih =>
    have absent : entry.1 ∉ map.entries.map Prod.fst := by
      intro member
      exact (List.nodup_append.mp distinct).2.2 _ member _ (by simp) rfl
    have grown : (map.insert entry.1 entry.2).entries = map.entries ++ [entry] :=
      insertEntry_new absent entry.2
    rw [List.foldl_cons, ih _ (by simpa [grown] using distinct), grown]
    simp

/-- A map built from entries with distinct names holds just these entries. -/
theorem entries_ofList {entries : List (Text × Value)}
    (distinct : (entries.map Prod.fst).Nodup) : (ofList entries).entries = entries := by
  -- The map starts without entries, and every name is new.
  have built := foldl_insert_entries empty entries (by simpa [empty] using distinct)
  simpa [ofList, empty] using built

/-- A map is built again from its own entries. -/
theorem ofList_entries (map : OrderedMap Value) : ofList map.entries = map := by
  -- The entries are inserted as they are, since their names are distinct.
  have same := entries_ofList map.distinct
  cases built : ofList map.entries
  cases map
  simpa [built] using same

/-- The names of such a map are those of the entries. -/
theorem names_ofList {entries : List (Text × Value)}
    (distinct : (entries.map Prod.fst).Nodup) : (ofList entries).names = entries.map Prod.fst := by
  rw [names, entries_ofList distinct]

/-- A map built from entries with distinct names gives each name the value of its entry. -/
theorem get?_ofList {entries : List (Text × Value)} (distinct : (entries.map Prod.fst).Nodup)
    {name : Text} {value : Value} (member : (name, value) ∈ entries) :
    (ofList entries).get? name = some value := by
  -- No entry before this one has the same name.
  obtain ⟨before, after, split⟩ := List.append_of_mem member
  rw [get?, entries_ofList distinct, List.lookup_eq_some_iff]
  refine ⟨before, after, split, fun entry earlier => ?_⟩
  rw [split, List.map_append, List.map_cons] at distinct
  have different := (List.nodup_append.mp distinct).2.2 entry.1 (List.mem_map_of_mem earlier)
    name (by simp)
  simpa using Ne.symm different

/-- A map built from entries and one more is the map of the entries with that one inserted. -/
theorem ofList_append_singleton (entries : List (Text × Value)) (entry : Text × Value) :
    ofList (entries ++ [entry]) = (ofList entries).insert entry.1 entry.2 := by
  rw [ofList, List.foldl_append]
  rfl

/-- A map built from any entries gives each name the value of its last entry. -/
theorem get?_ofList_eq_lookup (entries : List (Text × Value)) (name : Text) :
    (ofList entries).get? name = entries.reverse.lookup name := by
  -- The entry at the end is the one that is inserted last.
  induction entries using List.reverseRecOn with
  | nil => rfl
  | append_singleton earlier entry ih =>
    rw [ofList_append_singleton, get?_insert, ih, List.reverse_append, List.reverse_singleton,
      List.singleton_append, lookup_cons_eq]

/-- An entry with whose name no later one comes is found under its name. -/
theorem get?_ofList_of_last {before after : List (Text × Value)} {name : Text} {value : Value}
    (last : name ∉ after.map Prod.fst) :
    (ofList (before ++ (name, value) :: after)).get? name = some value := by
  -- From behind, the entry is the first one with the name.
  have absent : after.reverse.lookup name = none := by
    rw [lookup_eq_none_iff_notMem, List.map_reverse, List.mem_reverse]
    exact last
  rw [get?_ofList_eq_lookup, List.reverse_append, List.reverse_cons, List.append_assoc,
    List.lookup_append, absent, Option.none_or, List.singleton_append, lookup_cons_eq, if_pos rfl]

/-- An entry of a map is found under its name. -/
theorem get?_of_mem {map : OrderedMap Value} {name : Text} {value : Value}
    (member : (name, value) ∈ map.entries) : map.get? name = some value := by
  have found := get?_ofList map.distinct member
  rwa [get?, entries_ofList map.distinct] at found

/-- A name is found exactly when it is one of the names of the map. -/
theorem isSome_get?_iff {map : OrderedMap Value} {name : Text} :
    (map.get? name).isSome ↔ name ∈ map.names := by
  rw [Option.isSome_iff_ne_none, get?, ne_eq, lookup_eq_none_iff_notMem, Classical.not_not, names]

/-- An insertion at a name that is known leaves the names as they are. -/
theorem names_insert_of_mem {map : OrderedMap Value} {name : Text} (known : name ∈ map.names)
    (value : Value) : (map.insert name value).names = map.names :=
  (insertEntry_names name value map.entries).trans (if_pos known)

/-- An insertion at a new name puts this name behind the others. -/
theorem names_insert_of_not_mem {map : OrderedMap Value} {name : Text} (new : name ∉ map.names)
    (value : Value) : (map.insert name value).names = map.names ++ [name] :=
  (insertEntry_names name value map.entries).trans (if_neg new)

/-- Maps are the same when they have the same names in the same order, with the same values. -/
theorem eq_of_get? {first second : OrderedMap Value} (names : first.names = second.names)
    (values : ∀ name ∈ first.names, first.get? name = second.get? name) : first = second := by
  -- The entries are made up again from the names and their values.
  have paired (map : OrderedMap Value) :
      map.entries.map some = map.names.map fun name => (map.get? name).map (name, ·) := by
    rw [OrderedMap.names, List.map_map]
    refine List.map_congr_left fun entry member => ?_
    simp [get?_of_mem member]
  have entries : first.entries = second.entries := by
    refine (List.map_inj_right fun _ _ => Option.some.inj).mp ?_
    rw [paired first, paired second, ← names]
    exact List.map_congr_left fun name member => by rw [values name member]
  cases first
  cases second
  simpa using entries

end OrderedMap

end Ddl
