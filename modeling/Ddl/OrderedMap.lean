import Ddl.Text.Basic

/-! Maps from names that list their entries in the order in which the names first came. -/

namespace Ddl

/-- A map from names to values, which remembers the order of its names. -/
structure OrderedMap (Value : Type) where
  /-- The names with their values, in order. -/
  entries : List (Text × Value)
  /-- No name stands twice among the entries. -/
  distinct : (entries.map Prod.fst).Nodup

namespace OrderedMap

variable {Value : Type}

/-- The entries with a value put in the place of its name, or at the end for a new name. -/
def insertEntry (name : Text) (value : Value) : List (Text × Value) → List (Text × Value)
  -- A name that is known keeps its place.
  | [] => [(name, value)]
  | (known, old) :: rest =>
    if known = name then (known, value) :: rest
    else (known, old) :: insertEntry name value rest

/-- An insertion changes the names only by a new one at the end. -/
theorem insertEntry_names (name : Text) (value : Value) (entries : List (Text × Value)) :
    (insertEntry name value entries).map Prod.fst =
      if name ∈ entries.map Prod.fst then entries.map Prod.fst
      else entries.map Prod.fst ++ [name] := by
  -- The search stops at the first entry with the name.
  induction entries with
  | nil => rfl
  | cons entry rest ih =>
    obtain ⟨known, old⟩ := entry
    by_cases same : known = name
    · simp [insertEntry, same]
    · simp only [insertEntry, if_neg same, List.map_cons, ih, List.mem_cons, Ne.symm same, false_or]
      split <;> simp

/-- The map without entries. -/
def empty : OrderedMap Value :=
  ⟨[], by simp⟩

/-- The map with a value put in the place of its name, or at the end for a new name. -/
def insert (map : OrderedMap Value) (name : Text) (value : Value) : OrderedMap Value where
  entries := insertEntry name value map.entries
  distinct := by
    -- A name that is added was not among the names before.
    rw [insertEntry_names]
    split
    · exact map.distinct
    · rename_i absent
      refine List.nodup_append.mpr ⟨map.distinct, by simp, ?_⟩
      intro known member new same equal
      rw [equal, List.mem_singleton.mp same] at member
      exact absent member

/-- The value of a name. -/
def get? (map : OrderedMap Value) (name : Text) : Option Value :=
  map.entries.lookup name

/-- The names of the map in order. -/
def names (map : OrderedMap Value) : List Text :=
  map.entries.map Prod.fst

/-- The map of the given entries, in which the last value of a name wins and its first place. -/
def ofList (entries : List (Text × Value)) : OrderedMap Value :=
  entries.foldl (fun map entry => map.insert entry.1 entry.2) empty

/-- An insertion in place of an old value changes a count by the old and the new value alone. -/
theorem countP_insertEntry (holds : Value → Bool) (new : Value) {name : Text} {old : Value}
    {entries : List (Text × Value)} (found : entries.lookup name = some old) :
    (insertEntry name new entries).countP (fun entry => holds entry.2) +
        (if holds old then 1 else 0) =
      entries.countP (fun entry => holds entry.2) + (if holds new then 1 else 0) := by
  -- Both the look-up and the insertion stop at the first entry with the name.
  induction entries with
  | nil => simp at found
  | cons entry rest ih =>
    obtain ⟨known, value⟩ := entry
    by_cases same : known = name
    · subst known
      simp only [List.lookup_cons, beq_self_eq_true, Option.some.injEq] at found
      subst value
      simp only [insertEntry, if_true, List.countP_cons]
      omega
    · have later : rest.lookup name = some old := by
        simpa [List.lookup_cons, beq_eq_false_iff_ne.mpr (Ne.symm same)] using found
      simp only [insertEntry, if_neg same, List.countP_cons]
      have := ih later
      omega

end OrderedMap

end Ddl
