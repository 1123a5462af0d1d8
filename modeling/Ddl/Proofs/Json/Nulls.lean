import Ddl.Api.Endpoint
import Ddl.Proofs.Text.Raw

/-! What is written in JSON has no null fields, so that leaving these out of an answer only leaves
out fields of the answer itself. No half of a surrogate pair keeps it from being written. -/

namespace Ddl

namespace Json

mutual

/-- A value without the fields that are null, at any depth. -/
def withoutNulls : Json → Json
  | .array items => .array (itemsWithoutNulls items)
  | .object fields => .object (fieldsWithoutNulls fields)
  | other => other

/-- The items of an array without the fields that are null inside of them. -/
def itemsWithoutNulls : List Json → List Json
  -- An item that is null itself stays.
  | [] => []
  | item :: rest => item.withoutNulls :: itemsWithoutNulls rest

/-- The fields of an object without those that are null. -/
def fieldsWithoutNulls : List (Text × Json) → List (Text × Json)
  | [] => []
  | (_, .null) :: rest => fieldsWithoutNulls rest
  | (name, value) :: rest => (name, value.withoutNulls) :: fieldsWithoutNulls rest

end

/-- A value that has no null fields inside of it, nor halves of surrogate pairs. -/
structure Full (json : Json) : Prop where
  /-- The value is no null. -/
  present : json ≠ .null
  /-- No field inside of it is null. -/
  kept : json.withoutNulls = json
  /-- Its text has characters alone. -/
  whole : json.written.IsWhole

open RawText

/-- A text is written with characters alone. -/
theorem isWhole_quoted (value : Text) : IsWhole (quoted (ofText value)) := by
  -- The marks are characters, and so is everything that is written for a character.
  have mark : IsWhole [.whole '"'] := isWhole_ofText ['"']
  have inside : IsWhole ((ofText value).flatMap writtenCodePoint) := by
    intro codePoint member
    obtain ⟨given, among, written⟩ := List.mem_flatMap.mp member
    obtain ⟨char, -, rfl⟩ := List.mem_map.mp among
    exact isWhole_ofText (writtenChar char) codePoint written
  exact isWhole_append.mpr ⟨mark, isWhole_append.mpr ⟨inside, mark⟩⟩

/-- Texts have no fields. -/
theorem full_string (value : Text) : Full (.string value) :=
  ⟨by simp, rfl, isWhole_quoted value⟩

/-- A field that is null is left out. -/
theorem fieldsWithoutNulls_null (name : Text) (rest : List (Text × Json)) :
    fieldsWithoutNulls ((name, .null) :: rest) = fieldsWithoutNulls rest := by
  rw [fieldsWithoutNulls]

/-- A field that is not null stays. -/
theorem fieldsWithoutNulls_cons {value : Json} (full : value.Full) (name : Text)
    (rest : List (Text × Json)) :
    fieldsWithoutNulls ((name, value) :: rest) = (name, value) :: fieldsWithoutNulls rest := by
  rw [fieldsWithoutNulls, full.kept]
  exact full.present

/-- What is written within brackets or braces has characters alone when each piece of it has. -/
theorem isWhole_enclosed {pieces : List RawText} (opening closing : Char)
    (each : ∀ piece ∈ pieces, IsWhole piece) :
    IsWhole (.whole opening :: ([.whole ','].intercalate pieces ++ [.whole closing])) := by
  have inside := isWhole_intercalate (isWhole_ofText [',']) each
  exact isWhole_append.mpr ⟨isWhole_ofText [opening],
    isWhole_append.mpr ⟨inside, isWhole_ofText [closing]⟩⟩

/-- The items of an array are written one by one. -/
theorem writtenItems_eq_map (items : List Json) : writtenItems items = items.map written := by
  induction items with
  | nil => rfl
  | cons item rest ih => rw [writtenItems, ih, List.map_cons]

/-- So are the fields of an object, each with its name. -/
theorem writtenFields_eq_map (fields : List (Text × Json)) :
    writtenFields fields =
      fields.map fun field => quoted (ofText field.1) ++ .whole ':' :: field.2.written := by
  induction fields with
  | nil => rfl
  | cons field rest ih => rw [writtenFields, ih, List.map_cons]

/-- Nothing is left out of an array of values out of which nothing is left out. -/
theorem full_array {items : List Json} (each : ∀ item ∈ items, Full item) :
    Full (.array items) := by
  refine ⟨by simp, ?_, ?_⟩
  · rw [withoutNulls]
    congr 1
    -- The items stay one by one.
    induction items with
    | nil => rfl
    | cons item rest ih =>
      rw [List.forall_mem_cons] at each
      rw [itemsWithoutNulls, each.1.kept, ih each.2]
  · rw [written, writtenItems_eq_map]
    exact isWhole_enclosed _ _ (List.forall_mem_map.mpr fun item member => (each item member).whole)

/-- Nothing is left out of an object of values out of which nothing is left out. -/
theorem full_object {fields : List (Text × Json)} (each : ∀ field ∈ fields, Full field.2) :
    Full (.object fields) := by
  refine ⟨by simp, ?_, ?_⟩
  · rw [withoutNulls]
    congr 1
    -- The fields stay one by one, since none of them is null.
    induction fields with
    | nil => rfl
    | cons field rest ih =>
      rw [List.forall_mem_cons] at each
      rw [fieldsWithoutNulls_cons each.1, ih each.2]
  · rw [written, writtenFields_eq_map]
    refine isWhole_enclosed _ _ (List.forall_mem_map.mpr fun field member => ?_)
    exact isWhole_append.mpr ⟨isWhole_quoted field.1,
      isWhole_append.mpr ⟨isWhole_ofText [':'], (each field member).whole⟩⟩

/-- Truth values have no fields. -/
theorem full_bool (value : Bool) : Full (.bool value) := by
  refine ⟨by simp, rfl, ?_⟩
  cases value <;> exact isWhole_ofText _

/-- Numbers have no fields. -/
theorem full_integer (value : Int) : Full (.integer value) :=
  ⟨by simp, rfl, isWhole_ofText (Text.ofInt value)⟩

/-- Lists of names have no fields. -/
theorem full_ofNames (names : List Text) : Full (ofNames names) :=
  full_array (List.forall_mem_map.mpr fun name _ => full_string name)

end Json

open Json

/-- A column that is referred to has a value for each of its fields. -/
theorem Target.full_toJson (target : Target) : Full target.toJson :=
  full_object (by simp [full_string])

/-- So does a foreign key. -/
theorem ForeignKey.full_toJson (key : ForeignKey) : Full key.toJson :=
  full_object (by simp [full_string, key.target.full_toJson])

/-- A column has a value for each field that is written. -/
theorem Column.full_toJson (column : Column) : Full column.toJson := by
  -- Fields without a value are left out, so that those which are there have one.
  refine full_object (List.forall_mem_append.mpr ⟨List.forall_mem_append.mpr ⟨?_, ?_⟩, ?_⟩)
  · simp [full_string, full_bool]
  · cases column.default? <;> simp [full_string]
  · cases column.references? <;> simp [Target.full_toJson]

namespace Table

/-- The fields of a table have values. -/
theorem full_of_mem_jsonFields {table : Table} {field : Text × Json}
    (member : field ∈ table.jsonFields) : Full field.2 := by
  -- There are three fields, a text and two lists.
  have columns : Full (.array (table.columns.map Column.toJson)) :=
    full_array (List.forall_mem_map.mpr fun column _ => column.full_toJson)
  have keys : Full (.array (table.foreignKeys.map ForeignKey.toJson)) :=
    full_array (List.forall_mem_map.mpr fun key _ => key.full_toJson)
  simp only [jsonFields, List.mem_cons, List.not_mem_nil, or_false] at member
  rcases member with rfl | rfl | rfl
  · exact full_string table.name
  · exact columns
  · exact keys

/-- A table has a value for each of its fields. -/
theorem full_toJson (table : Table) : Full table.toJson :=
  full_object fun _ => full_of_mem_jsonFields

end Table

namespace Plan

/-- The tables of a plan have values for all their fields. -/
theorem full_tablesJson (plan : Plan) : Full plan.tablesJson := by
  refine full_array (List.forall_mem_map.mpr fun numbered _ => full_object ?_)
  refine List.forall_mem_append.mpr ⟨fun _ => Table.full_of_mem_jsonFields, ?_⟩
  simp [full_integer]

/-- All names have dependencies, which may be none. -/
theorem full_dependenciesJson (plan : Plan) : Full plan.dependenciesJson :=
  full_object (List.forall_mem_map.mpr fun entry _ => full_ofNames entry.2)

/-- A plan has a value for each of its fields. -/
theorem full_toJson (plan : Plan) : Full plan.toJson :=
  full_object (by
    simp [jsonFields, plan.full_tablesJson, full_ofNames, plan.full_dependenciesJson])

end Plan

/-- A faulty statement has a value for each of its fields. -/
theorem ItemError.full_toJson (error : ItemError) : Full error.toJson :=
  full_object (by simp [full_string])

namespace Response

/-- The body of an answer to one statement, with null for what has no value. -/
def tableBody : Except ItemFault Table → Json
  | .ok table =>
    .object [("success".toList, .bool true), ("table".toList, table.toJson),
      ("error".toList, .null)]
  | .error fault =>
    .object [("success".toList, .bool false), ("table".toList, .null),
      ("error".toList, .string fault.message)]

/-- The fields of the body of an answer to many statements, in their order. -/
def planFields (success : Bool) (tables order dependencies error errors : Json) : Json :=
  .object [("success".toList, .bool success), ("tables".toList, tables),
    ("order".toList, order), ("dependencies".toList, dependencies),
    ("error".toList, error), ("errors".toList, errors)]

/-- The body of an answer to many statements, with null for what has no value. -/
def planBody : Except PlanError Plan → Json
  | .ok plan =>
    planFields true plan.tablesJson (Json.ofNames plan.order) plan.dependenciesJson .null .null
  | .error (.items errors) =>
    planFields false .null .null .null .null (.array (errors.map ItemError.toJson))
  | .error (.dependency error) =>
    planFields false .null .null .null (.string error.message) .null

/-- The answer to one statement leaves out what has no value. -/
theorem body_answerStatement (limit : Int) (statement : Text) :
    (Endpoint.answerStatement limit statement).body =
      (tableBody (Plan.table (some limit) statement)).withoutNulls := by
  -- Either the error is left out or the table is.
  rw [Endpoint.answerStatement]
  cases Plan.table (some limit) statement with
  | error fault => rfl
  | ok table =>
    rw [tableBody, withoutNulls, fieldsWithoutNulls_cons (full_bool true),
      fieldsWithoutNulls_cons table.full_toJson]
    rfl

/-- The answer to many statements leaves out what has no value. -/
theorem body_ofPlan (result : Except PlanError Plan) :
    (ofPlan result).body = (planBody result).withoutNulls := by
  -- Of the fields of a plan and those of errors only the ones with a value are kept.
  cases result with
  | ok plan =>
    rw [planBody, planFields, withoutNulls, fieldsWithoutNulls_cons (full_bool true),
      fieldsWithoutNulls_cons plan.full_tablesJson,
      fieldsWithoutNulls_cons (full_ofNames plan.order),
      fieldsWithoutNulls_cons plan.full_dependenciesJson]
    rfl
  -- A dependency error is a text, and item errors are a list of objects.
  | error error =>
    cases error with
    | dependency error => rfl
    | items errors =>
      have full : Full (.array (errors.map ItemError.toJson)) :=
        full_array (List.forall_mem_map.mpr fun error _ => error.full_toJson)
      rw [planBody, planFields, withoutNulls, fieldsWithoutNulls_cons (full_bool false),
        fieldsWithoutNulls_null, fieldsWithoutNulls_null, fieldsWithoutNulls_null,
        fieldsWithoutNulls_null, fieldsWithoutNulls_cons full]
      rfl

/-- Nothing keeps the body of an answer with a plan, or with the reason for none, from being
written. -/
theorem full_ofPlan (result : Except PlanError Plan) : Full (ofPlan result).body := by
  -- Each of the three kinds of answers has values in its fields.
  cases result with
  | ok plan =>
    refine full_object (List.forall_mem_cons.mpr ⟨full_bool true, ?_⟩)
    simp [Plan.jsonFields, plan.full_tablesJson, full_ofNames, plan.full_dependenciesJson]
  | error error =>
    cases error with
    | dependency error => exact full_object (by simp [full_bool, full_string])
    | items errors =>
      have shown : Full (.array (errors.map ItemError.toJson)) :=
        full_array (List.forall_mem_map.mpr fun error _ => error.full_toJson)
      exact full_object (by simp [full_bool, shown])

end Response

end Ddl
