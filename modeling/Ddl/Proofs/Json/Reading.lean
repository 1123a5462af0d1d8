import Ddl.Json.Basic
import Ddl.Proofs.OrderedMap
import Mathlib.Data.List.Forall2

/-! Values are read from JSON by the names of fields, so that their order does not matter. -/

namespace Ddl

namespace Json

variable {Value : Type}

/-- Values that are the same, except that the fields of objects may come in another order. -/
inductive Agrees : Json → Json → Prop
  /-- A value agrees with itself. -/
  | same (json : Json) : Agrees json json
  /-- The items of arrays agree one by one. -/
  | array {items others : List Json} (each : List.Forall₂ Agrees items others) :
      Agrees (.array items) (.array others)
  /-- Objects have the same names, under which they have values that agree. -/
  | object {fields others : List (Text × Json)}
      (each : ∀ name, Option.Rel Agrees (field? fields name) (field? others name)) :
      Agrees (.object fields) (.object others)

/-- Objects with the same fields in another order agree. -/
theorem agrees_of_perm {fields others : List (Text × Json)}
    (distinct : (fields.map Prod.fst).Nodup) (moved : fields.Perm others) :
    Agrees (.object fields) (.object others) := by
  have alsoDistinct : (others.map Prod.fst).Nodup := (moved.map Prod.fst).nodup_iff.mp distinct
  refine Agrees.object fun name => ?_
  rw [field?, field?, ← OrderedMap.get?_ofList_eq_lookup, ← OrderedMap.get?_ofList_eq_lookup]
  by_cases known : name ∈ fields.map Prod.fst
  · -- The one field with the name is there in both orders.
    obtain ⟨⟨name, value⟩, member, rfl⟩ := List.mem_map.mp known
    rw [OrderedMap.get?_ofList distinct member,
      OrderedMap.get?_ofList alsoDistinct (moved.mem_iff.mp member)]
    exact .some (Agrees.same value)
  · have unknown : name ∉ others.map Prod.fst := mt (moved.map Prod.fst).mem_iff.mpr known
    rw [← OrderedMap.names_ofList distinct, ← OrderedMap.isSome_get?_iff,
      Option.not_isSome_iff_eq_none] at known
    rw [← OrderedMap.names_ofList alsoDistinct, ← OrderedMap.isSome_get?_iff,
      Option.not_isSome_iff_eq_none] at unknown
    rw [known, unknown]
    exact .none

/-- The text that a value is. -/
def text? : Json → Option Text
  | .string value => some value
  | _ => none

/-- The truth value that a value is. -/
def flag? : Json → Option Bool
  | .bool value => some value
  | _ => none

/-- What the items of an array are read as. -/
def list? (read? : Json → Option Value) : Json → Option (List Value)
  | .array items => items.mapM read?
  | _ => none

/-- What the fields of an object are read as. -/
def object? (readFields? : List (Text × Json) → Option Value) : Json → Option Value
  | .object fields => readFields? fields
  | _ => none

/-- What the value of a field is read as. -/
def required? (read? : Json → Option Value) (fields : List (Text × Json)) (name : Text) :
    Option Value :=
  (field? fields name).bind read?

/-- What the value of a field is read as, if there is such a field. -/
def optional? (read? : Json → Option Value) (fields : List (Text × Json)) (name : Text) :
    Option (Option Value) :=
  -- A field that is there has to be readable.
  match field? fields name with
  | none => some none
  | some json => (read? json).map some

/-- The names of fields with what their values are read as. -/
def readEntries (read? : Json → Option Value) (fields : List (Text × Json)) :
    List (Text × Value) :=
  -- A name that comes again is read alike.
  (fields.map Prod.fst).filterMap fun name => (required? read? fields name).map (name, ·)

/-- The map that has for each name of a field what its value is read as. -/
def map? (read? : Json → Option Value) : Json → Option (OrderedMap Value) :=
  object? fun fields =>
    if ∀ name ∈ fields.map Prod.fst, (required? read? fields name).isSome then
      some (OrderedMap.ofList (readEntries read? fields))
    else none

/-- A way of reading for which values that agree are the same. -/
def Respects (read? : Json → Option Value) : Prop :=
  ∀ {json other : Json}, json.Agrees other → read? json = read? other

/-- Fields that agree, in whatever order they come. -/
def FieldsAgree (fields others : List (Text × Json)) : Prop :=
  ∀ name, Option.Rel Agrees (field? fields name) (field? others name)

/-- Texts are read alike. -/
theorem respects_text? : Respects text? := by
  intro json other agrees
  cases agrees <;> rfl

/-- Truth values are read alike. -/
theorem respects_flag? : Respects flag? := by
  intro json other agrees
  cases agrees <;> rfl

variable {read? : Json → Option Value} {fields others : List (Text × Json)}

/-- Lists are read alike when their items are. -/
theorem Respects.list? (respects : Respects read?) : Respects (list? read?) := by
  intro json other agrees
  cases agrees with
  | same => rfl
  | object => rfl
  | array each =>
    -- The items are gone through side by side.
    show List.mapM read? _ = List.mapM read? _
    induction each with
    | nil => rfl
    | cons first _ ih => rw [List.mapM_cons, List.mapM_cons, respects first, ih]

/-- A field is read alike when its value is. -/
theorem Respects.required? (respects : Respects read?) (agree : FieldsAgree fields others)
    (name : Text) : required? read? fields name = required? read? others name := by
  -- The field is missing in both or it has values that agree.
  rw [Json.required?, Json.required?]
  have alike := agree name
  generalize field? fields name = first, field? others name = second at alike ⊢
  cases alike with
  | none => rfl
  | some agrees => exact respects agrees

/-- So is a field that may be left out. -/
theorem Respects.optional? (respects : Respects read?) (agree : FieldsAgree fields others)
    (name : Text) : optional? read? fields name = optional? read? others name := by
  -- A field that is missing in both is read as none.
  rw [Json.optional?, Json.optional?]
  have alike := agree name
  generalize field? fields name = first, field? others name = second at alike ⊢
  cases alike with
  | none => rfl
  | some agrees => exact congrArg (Option.map some) (respects agrees)

/-- A field has a value that agrees with the one that it has in fields that agree. -/
theorem exists_field?_of_agree (agree : FieldsAgree fields others) {name : Text} {other : Json}
    (found : field? others name = some other) :
    ∃ value, field? fields name = some value ∧ value.Agrees other := by
  -- The name has a value in both or in neither.
  have alike := agree name
  rw [found] at alike
  generalize field? fields name = first at alike ⊢
  cases alike with
  | some agrees => exact ⟨_, rfl, agrees⟩

/-- Objects are read alike when fields that agree are. -/
theorem respects_object? {readFields? : List (Text × Json) → Option Value}
    (alike : ∀ {fields others}, FieldsAgree fields others →
      readFields? fields = readFields? others) : Respects (object? readFields?) := by
  -- Only objects have fields that could stand in another order.
  intro json other agrees
  cases agrees with
  | same => rfl
  | array => rfl
  | object each => exact alike each

/-- Reading goes well when it does for each item. -/
theorem mapM_eq_some {Item : Type} {read? : Item → Option Value} {write : Item → Value}
    {items : List Item} (each : ∀ item ∈ items, read? item = some (write item)) :
    items.mapM read? = some (items.map write) := by
  -- The items are read one after another, and none of them fails.
  induction items with
  | nil => rfl
  | cons item rest ih =>
    rw [List.forall_mem_cons] at each
    rw [List.mapM_cons, each.1, ih each.2]
    rfl

/-- A list is read back from what its items are written as. -/
theorem list?_map {Item : Type} {read? : Json → Option Value} {write : Item → Json}
    {value : Item → Value} (each : ∀ item, read? (write item) = some (value item))
    (items : List Item) : list? read? (.array (items.map write)) = some (items.map value) := by
  rw [Json.list?, List.mapM_map]
  exact mapM_eq_some fun item _ => each item

/-- Among names with their values each name is found with its value. -/
theorem lookup_filterMap_pairs (value? : Text → Option Value) (names : List Text) (name : Text) :
    (names.filterMap fun name => (value? name).map (name, ·)).lookup name =
      if name ∈ names then value? name else none := by
  -- A name without a value is passed over, and each other one comes with its value.
  induction names with
  | nil => rfl
  | cons first rest ih =>
    rw [List.filterMap_cons]
    cases found : value? first with
    | none =>
      rw [Option.map_none]
      rw [ih]
      by_cases same : name = first
      · rw [same, found, ite_self, ite_self]
      · simp only [List.mem_cons, same, false_or]
    | some value =>
      simp only [Option.map_some]
      rw [OrderedMap.lookup_cons_eq, ih]
      by_cases same : name = first
      · simp [same, found]
      · simp [same]

/-- There is no value for a name that no field has. -/
theorem field?_eq_none_iff {name : Text} :
    field? fields name = none ↔ name ∉ fields.map Prod.fst := by
  rw [field?, OrderedMap.lookup_eq_none_iff_notMem, List.map_reverse, List.mem_reverse]

/-- The value of each name is what the value of its field is read as. -/
theorem get?_readEntries (read? : Json → Option Value) (fields : List (Text × Json))
    (name : Text) :
    (OrderedMap.ofList (readEntries read? fields)).get? name = required? read? fields name := by
  -- The last field of a name counts in both.
  rw [OrderedMap.get?_ofList_eq_lookup, readEntries, ← List.filterMap_reverse,
    lookup_filterMap_pairs]
  split
  · rfl
  · rename_i unknown
    rw [required?, field?_eq_none_iff.mpr (mt List.mem_reverse.mpr unknown), Option.bind_none]

/-- Maps are read from objects that agree, with the same values and perhaps in another order. -/
theorem exists_map?_of_agrees (respects : Respects read?) {json other : Json}
    (agrees : json.Agrees other) {map : OrderedMap Value} (read : map? read? other = some map) :
    ∃ found, map? read? json = some found ∧ ∀ name, found.get? name = map.get? name := by
  cases agrees with
  | same => exact ⟨map, read, fun _ => rfl⟩
  | array => simp [map?, object?] at read
  | @object fields others each =>
    have alike (name : Text) := respects.required? each name
    -- Both objects have the same names, and read the same values under them.
    have names (name : Text) : name ∈ fields.map Prod.fst ↔ name ∈ others.map Prod.fst := by
      rw [← not_iff_not, ← field?_eq_none_iff, ← field?_eq_none_iff]
      have both := each name
      generalize field? fields name = first, field? others name = second at both ⊢
      cases both <;> simp
    rw [map?, object?] at read
    split at read
    · rename_i readable
      refine ⟨OrderedMap.ofList (readEntries read? fields), if_pos fun name member => ?_, ?_⟩
      · rw [alike]
        exact readable name ((names name).mp member)
      · intro name
        rw [← Option.some.inj read, get?_readEntries, get?_readEntries, alike]
    · simp at read

/-- A map is read back from what its values are written as. -/
theorem map?_entries {write : Value → Json} (each : ∀ value, read? (write value) = some value)
    (map : OrderedMap Value) :
    map? read? (.object (map.entries.map fun entry => (entry.1, write entry.2))) = some map := by
  let written := map.entries.map fun entry => (entry.1, write entry.2)
  have keys : written.map Prod.fst = map.names := by
    simp [written, OrderedMap.names, Function.comp_def]
  -- Names are distinct, so that each finds its own value again.
  have found : ∀ entry ∈ map.entries, required? read? written entry.1 = some entry.2 := by
    intro entry member
    have distinct : (written.map Prod.fst).Nodup := keys ▸ map.distinct
    rw [required?, field?, ← OrderedMap.get?_ofList_eq_lookup,
      OrderedMap.get?_ofList distinct (List.mem_map.mpr ⟨entry, member, rfl⟩)]
    exact each entry.2
  have readable : ∀ name ∈ written.map Prod.fst, (required? read? written name).isSome := by
    intro name member
    rw [keys] at member
    obtain ⟨entry, inside, rfl⟩ := List.mem_map.mp member
    rw [found entry inside, Option.isSome_some]
  -- All names are there, in their order and each with its value.
  have entries : readEntries read? written = map.entries := by
    rw [readEntries, keys, OrderedMap.names, List.filterMap_map]
    refine (List.filterMap_congr fun entry member => ?_).trans List.filterMap_some
    simp [found entry member]
  show (if _ then _ else _) = _
  rw [if_pos readable, entries, OrderedMap.ofList_entries]

end Json

end Ddl
