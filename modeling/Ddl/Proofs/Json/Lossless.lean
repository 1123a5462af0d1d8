import Ddl.Proofs.Json.Nulls
import Ddl.Proofs.Json.Reading

/-! Tables and plans are read back from what is written of them in JSON, whatever the order of the
fields there. -/

namespace Ddl

open Json

namespace Target

/-- A column that is referred to, from its fields. -/
def ofFields? (fields : List (Text × Json)) : Option Target := do
  let table ← required? text? fields "table".toList
  let column ← required? text? fields "column".toList
  return ⟨table, column⟩

/-- A column that is referred to, from JSON. -/
def ofJson? : Json → Option Target :=
  object? ofFields?

/-- A column that is referred to is read back. -/
theorem ofJson?_toJson (target : Target) : ofJson? target.toJson = some target :=
  rfl

/-- The order of its fields does not matter. -/
theorem respects_ofJson? : Respects ofJson? := by
  apply respects_object?
  intro fields others agree
  rw [ofFields?, ofFields?, respects_text?.required? agree, respects_text?.required? agree]

end Target

namespace ForeignKey

/-- A foreign key, from its fields. -/
def ofFields? (fields : List (Text × Json)) : Option ForeignKey := do
  let column ← required? text? fields "column".toList
  let target ← required? Target.ofJson? fields "references".toList
  return ⟨column, target⟩

/-- A foreign key, from JSON. -/
def ofJson? : Json → Option ForeignKey :=
  object? ofFields?

/-- A foreign key is read back. -/
theorem ofJson?_toJson (key : ForeignKey) : ofJson? key.toJson = some key :=
  rfl

/-- The order of its fields does not matter. -/
theorem respects_ofJson? : Respects ofJson? := by
  -- Its two fields are read by name.
  apply respects_object?
  intro fields others agree
  rw [ofFields?, ofFields?, respects_text?.required? agree,
    Target.respects_ofJson?.required? agree]

end ForeignKey

namespace Column

/-- A column, from its fields. -/
def ofFields? (fields : List (Text × Json)) : Option Column := do
  let name ← required? text? fields "name".toList
  let type ← required? text? fields "type".toList
  let nullable ← required? flag? fields "nullable".toList
  let primaryKey ← required? flag? fields "primaryKey".toList
  let unique ← required? flag? fields "unique".toList
  -- A default value that is not written is none, and one without characters is written.
  let default? ← optional? text? fields "defaultValue".toList
  let references? ← optional? Target.ofJson? fields "references".toList
  return { name, type, nullable, primaryKey, unique, default?, references? }

/-- A column, from JSON. -/
def ofJson? : Json → Option Column :=
  object? ofFields?

/-- A column is read back, with the values that it has and no others. -/
theorem ofJson?_toJson (column : Column) : ofJson? column.toJson = some column := by
  obtain ⟨name, type, nullable, primaryKey, unique, default?, references?⟩ := column
  cases default? <;> cases references? <;> rfl

/-- The order of its fields does not matter. -/
theorem respects_ofJson? : Respects ofJson? := by
  -- Fields that may be left out are read by name as well.
  apply respects_object?
  intro fields others agree
  simp only [ofFields?, respects_text?.required? agree, respects_flag?.required? agree,
    respects_text?.optional? agree, Target.respects_ofJson?.optional? agree]

end Column

namespace Table

/-- A table, from its fields. -/
def ofFields? (fields : List (Text × Json)) : Option Table := do
  let name ← required? text? fields "name".toList
  let columns ← required? (list? Column.ofJson?) fields "columns".toList
  let foreignKeys ← required? (list? ForeignKey.ofJson?) fields "foreignKeys".toList
  return ⟨name, columns, foreignKeys⟩

/-- A table, from JSON. -/
def ofJson? : Json → Option Table :=
  object? ofFields?

/-- The columns of a table are read back in their order. -/
theorem list?_columns (table : Table) :
    list? Column.ofJson? (.array (table.columns.map Column.toJson)) = some table.columns := by
  have read := list?_map Column.ofJson?_toJson table.columns
  rwa [List.map_id'] at read

/-- So are the foreign keys. -/
theorem list?_foreignKeys (table : Table) :
    list? ForeignKey.ofJson? (.array (table.foreignKeys.map ForeignKey.toJson)) =
      some table.foreignKeys := by
  have read := list?_map ForeignKey.ofJson?_toJson table.foreignKeys
  rwa [List.map_id'] at read

/-- A table is read from fields when its three parts are. -/
theorem ofFields?_eq_some {table : Table} {fields : List (Text × Json)}
    (name : required? text? fields "name".toList = some table.name)
    (columns : required? (list? Column.ofJson?) fields "columns".toList = some table.columns)
    (keys : required? (list? ForeignKey.ofJson?) fields "foreignKeys".toList =
      some table.foreignKeys) : ofFields? fields = some table := by
  rw [ofFields?, name, columns, keys]
  rfl

/-- A table is read back. -/
theorem ofJson?_toJson (table : Table) : ofJson? table.toJson = some table :=
  ofFields?_eq_some rfl table.list?_columns table.list?_foreignKeys

/-- Tables for which the same is written are the same. -/
theorem toJson_injective : Function.Injective toJson := by
  -- What is written is read as both of them.
  intro table other same
  have read := table.ofJson?_toJson
  rw [same, other.ofJson?_toJson] at read
  exact (Option.some.inj read).symm

/-- The number of a table in a plan does no harm. -/
theorem ofJson?_numberedTable (table : Table) (number : Nat) :
    ofJson? (Plan.numberedTable table number) = some table :=
  ofFields?_eq_some rfl table.list?_columns table.list?_foreignKeys

/-- The order of its fields does not matter. -/
theorem respects_ofJson? : Respects ofJson? := by
  -- Lists are read item by item, and each item by the names of its fields.
  apply respects_object?
  intro fields others agree
  have columns : Respects (list? Column.ofJson?) := Column.respects_ofJson?.list?
  have keys : Respects (list? ForeignKey.ofJson?) := ForeignKey.respects_ofJson?.list?
  rw [ofFields?, ofFields?, respects_text?.required? agree, columns.required? agree,
    keys.required? agree]

end Table

namespace Plan

/-- A plan, from its fields. -/
def ofFields? (fields : List (Text × Json)) : Option Plan := do
  let tables ← required? (list? Table.ofJson?) fields "tables".toList
  let order ← required? (list? text?) fields "order".toList
  let dependencies ← required? (map? (list? text?)) fields "dependencies".toList
  return ⟨tables, order, dependencies⟩

/-- A plan, from JSON. -/
def ofJson? : Json → Option Plan :=
  object? ofFields?

/-- Names are read back. -/
theorem list?_ofNames (names : List Text) : list? text? (Json.ofNames names) = some names := by
  have read := list?_map (fun name => (rfl : text? (.string name) = some name)) names
  rwa [List.map_id'] at read

/-- The tables of a plan are read back in their order. -/
theorem list?_tablesJson (plan : Plan) :
    list? Table.ofJson? plan.tablesJson = some plan.tables := by
  have read := list?_map (fun numbered : Table × Nat =>
    Table.ofJson?_numberedTable numbered.1 (numbered.2 + 1)) plan.tables.zipIdx
  rwa [List.zipIdx_map_fst] at read

/-- So are the dependencies. -/
theorem map?_dependenciesJson (plan : Plan) :
    map? (list? text?) plan.dependenciesJson = some plan.dependencies :=
  map?_entries list?_ofNames plan.dependencies

/-- A plan is read from fields when its three parts are. -/
theorem ofFields?_eq_some {plan : Plan} {fields : List (Text × Json)}
    (tables : required? (list? Table.ofJson?) fields "tables".toList = some plan.tables)
    (order : required? (list? text?) fields "order".toList = some plan.order)
    (dependencies : required? (map? (list? text?)) fields "dependencies".toList =
      some plan.dependencies) : ofFields? fields = some plan := by
  rw [ofFields?, tables, order, dependencies]
  rfl

/-- A plan is read back. -/
theorem ofJson?_toJson (plan : Plan) : ofJson? plan.toJson = some plan :=
  ofFields?_eq_some plan.list?_tablesJson (list?_ofNames plan.order) plan.map?_dependenciesJson

/-- A plan is read back from the answer that gives it. -/
theorem ofJson?_ofPlan (plan : Plan) : ofJson? (Response.ofPlan (.ok plan)).body = some plan :=
  ofFields?_eq_some plan.list?_tablesJson (list?_ofNames plan.order) plan.map?_dependenciesJson

/-- Plans that are the same, except that the dependencies may be listed in another order. -/
structure Matches (plan other : Plan) : Prop where
  /-- The tables come in the same order. -/
  tables : plan.tables = other.tables
  /-- So do their names. -/
  order : plan.order = other.order
  /-- Each name has the same dependencies. -/
  dependencies : ∀ name, plan.dependencies.get? name = other.dependencies.get? name

/-- A plan is read back from any value that agrees with what is written of it. -/
theorem exists_ofJson?_of_agrees {plan : Plan} {json : Json} (agrees : json.Agrees plan.toJson) :
    ∃ read, ofJson? json = some read ∧ read.Matches plan := by
  cases agrees with
  | same => exact ⟨plan, plan.ofJson?_toJson, rfl, rfl, fun _ => rfl⟩
  | @object fields _ each =>
    -- Tables and names are read as they were written, in whatever order the fields stand.
    have tablesAlike : Respects (list? Table.ofJson?) := Table.respects_ofJson?.list?
    have namesAlike : Respects (list? text?) := respects_text?.list?
    have tables := (tablesAlike.required? each "tables".toList).trans plan.list?_tablesJson
    have order := (namesAlike.required? each "order".toList).trans (list?_ofNames plan.order)
    -- The dependencies are under their name, perhaps in another order.
    obtain ⟨json, found, alike⟩ :
        ∃ json, field? fields "dependencies".toList = some json ∧
          json.Agrees plan.dependenciesJson :=
      exists_field?_of_agree each rfl
    obtain ⟨map, read, same⟩ := exists_map?_of_agrees namesAlike alike plan.map?_dependenciesJson
    have dependencies : required? (map? (list? text?)) fields "dependencies".toList = some map := by
      rw [required?, found]
      exact read
    exact ⟨⟨plan.tables, plan.order, map⟩, ofFields?_eq_some tables order dependencies, rfl, rfl,
      same⟩

end Plan

/-- A table is read back from any value that agrees with what is written of it. -/
theorem Table.ofJson?_of_agrees {table : Table} {json : Json} (agrees : json.Agrees table.toJson) :
    Table.ofJson? json = some table :=
  (Table.respects_ofJson? agrees).trans table.ofJson?_toJson

/-- Tables and plans are read back from what is written of them, also when fields of objects come
in another order, so that no others are written alike. Nothing in what is written is null, and so
the answers that leave out null fields hold all of it. -/
theorem toJson_lossless (table : Table) (plan : Plan) :
    (∀ json : Json, json.Agrees table.toJson → Table.ofJson? json = some table) ∧
      (∀ other : Table, other.toJson.Agrees table.toJson → other = table) ∧
      Plan.ofJson? plan.toJson = some plan ∧
      (∀ json : Json, json.Agrees plan.toJson →
        ∃ read, Plan.ofJson? json = some read ∧ read.Matches plan) ∧
      (∀ other : Plan, other.toJson = plan.toJson → other = plan) ∧
      (∀ other : Plan, other.toJson.Agrees plan.toJson → other.Matches plan) ∧
      table.toJson.withoutNulls = table.toJson ∧ plan.toJson.withoutNulls = plan.toJson ∧
      Plan.ofJson? (Response.ofPlan (.ok plan)).body = some plan ∧
      (∀ limit statement, (Endpoint.answerStatement limit statement).body =
        (Response.tableBody (Plan.table (some limit) statement)).withoutNulls) ∧
      ∀ limit statements, (Endpoint.answerStatements limit statements).body =
        (Response.planBody (Plan.ofStatements (some limit) statements)).withoutNulls := by
  refine ⟨fun _ => Table.ofJson?_of_agrees, fun other agrees => ?_, plan.ofJson?_toJson,
    fun _ => Plan.exists_ofJson?_of_agrees, fun other same => ?_, fun other agrees => ?_,
    table.full_toJson.kept, plan.full_toJson.kept, plan.ofJson?_ofPlan,
    Response.body_answerStatement, fun limit statements => Response.body_ofPlan _⟩
  -- The other table is read from what agrees, and so is this one.
  · have read := Table.ofJson?_of_agrees agrees
    rw [other.ofJson?_toJson] at read
    exact Option.some.inj read
  · have read := plan.ofJson?_toJson
    rw [← same, other.ofJson?_toJson] at read
    exact Option.some.inj read
  · obtain ⟨found, read, alike⟩ := Plan.exists_ofJson?_of_agrees agrees
    rw [other.ofJson?_toJson] at read
    exact Option.some.inj read ▸ alike

/-- A table with one column, which may have a default value. -/
def notes (default? : Option Text) : Table :=
  ⟨"notes".toList,
    [⟨"body".toList, "TEXT".toList, false, false, true, default?, some ⟨['t'], ['k']⟩⟩], []⟩

/-- A default value without characters is told from none, and the order of fields does not count. -/
theorem toJson_lossless_notes :
    ¬(notes (some [])).toJson.Agrees (notes none).toJson ∧
      Table.ofJson? (.object (notes (some [])).jsonFields.reverse) = some (notes (some [])) := by
  -- The two tables differ, and the second half reads the fields from the last to the first.
  obtain ⟨read, -⟩ := toJson_lossless (notes (some [])) ⟨[], [], .empty⟩
  obtain ⟨-, same, -⟩ := toJson_lossless (notes none) ⟨[], [], .empty⟩
  refine ⟨fun agrees => absurd (same _ agrees) (by decide), read _ ?_⟩
  exact agrees_of_perm (by decide) (List.reverse_perm _)

end Ddl
