import Ddl.Proofs.Api.Script
import Ddl.Proofs.Json.Lossless
import Ddl.Proofs.Plan.Replay

/-! A statement that is given alone is answered like a list of which it is the only one. -/

namespace Ddl

variable {limit : Int} {limit? : Option Int} {statement message : Text} {table : Table}
  {fault : ItemFault} {body listBody : List UInt8}

namespace CreationOrder

/-- A table that refers to no other table is created. -/
theorem resolve_singleton_ok (inside : ∀ key ∈ table.foreignKeys, key.target.table = table.name) :
    resolve [table] = .ok [table.name] := by
  have creatable : ∀ name ∈ [table].map Table.name, Creatable [table] name := by
    intro name given
    refine .intro given fun target refers => ?_
    -- All keys stay inside of the table, so it does not refer to anything.
    obtain ⟨other, member, named, key, keyMember, aimed, leaves⟩ := refersTo_iff.mp refers
    obtain rfl := List.mem_singleton.mp member
    exact absurd (aimed.symm.trans ((inside key keyMember).trans named)) leaves
  have resolved : resolve [table] = .ok (finallyCreated [table]) :=
    resolve_eq_ok_iff.mpr ⟨List.nodup_singleton _, creatable, rfl⟩
  have names := perm_of_resolve resolved
  rw [resolved, List.perm_singleton.mp names]

/-- A table that refers to another one, which is not given, waits for ever. -/
theorem resolve_singleton_circular {key : ForeignKey} (member : key ∈ table.foreignKeys)
    (leaves : key.target.table ≠ table.name) :
    resolve [table] = .error (.circular [table.name]) := by
  -- The table would have to wait for another one, which never comes.
  have stuck : ¬Creatable [table] table.name := by
    intro creatable
    obtain ⟨-, targets⟩ := creatable
    have refers := refersTo_of_key (List.mem_singleton_self table) member leaves
    exact leaves (List.mem_singleton.mp (targets _ refers).given)
  refine resolve_eq_circular_iff.mpr ⟨List.nodup_singleton _, fun all => ?_, ?_⟩
  · exact stuck (all _ List.mem_cons_self)
  · have distinct : ([table].map Table.name).Nodup := List.nodup_singleton _
    have absent : table.name ∉ finallyCreated [table] := fun created =>
      stuck ((mem_finallyCreated_iff distinct).mp created)
    simp [absent]

end CreationOrder

namespace Plan

/-- A statement that fails alone is the one that is reported in its list. -/
theorem ofStatements_singleton_of_error (refused : Plan.table limit? statement = .error fault) :
    ofStatements limit? [statement] = .error (.items [⟨preview statement, fault⟩]) := by
  simp [ofStatements, itemError?, refused]

/-- A statement with a table has the plan of this table. -/
theorem ofStatements_singleton_of_ok (given : Plan.table limit? statement = .ok table) :
    ofStatements limit? [statement] = (ofTables [table]).mapError .dependency :=
  ofStatements_of_forall (.cons given .nil)

/-- The plan for a table that refers to no other table holds this table alone. -/
theorem ofTables_singleton (inside : ∀ key ∈ table.foreignKeys, key.target.table = table.name) :
    ∃ plan, ofTables [table] = .ok plan ∧ plan.tables = [table] ∧ plan.order = [table.name] ∧
      plan.dependencies.entries = [(table.name, [])] := by
  -- A table does not wait for itself, and so it is the whole order.
  have resolved := CreationOrder.resolve_singleton_ok inside
  have distinct : ([table].map Table.name).Nodup := List.nodup_singleton _
  refine ⟨_, ofTables_eq_ok_iff.mpr ⟨_, resolved, rfl⟩, ?_, rfl, ?_⟩
  · simp [get?_byName distinct (List.mem_singleton_self table)]
  · have none : table.dependencies = [] := by
      rw [List.eq_nil_iff_forall_not_mem]
      intro target member
      obtain ⟨other, key, keyMember, rfl⟩ := Table.mem_dependencies_iff.mp member
      exact other (inside key keyMember)
    simp [CreationOrder.entries_dependencyMap distinct, none]

end Plan

/-- Tables for which the same is written have the same name and the same keys. -/
theorem Table.eq_of_jsonFields {other : Table} (same : table.jsonFields = other.jsonFields) :
    table.name = other.name ∧ table.foreignKeys = other.foreignKeys := by
  obtain rfl := Table.toJson_injective (congrArg Json.object same)
  exact ⟨rfl, rfl⟩

namespace Endpoint

/-- A statement alone gets a response that depends on whether a table can be read from it. -/
theorem answerStatement_of_ok (given : Plan.table (some limit) statement = .ok table) :
    answerStatement limit statement = .ofTable table := by
  rw [answerStatement, given]

/-- A statement that fails is answered with the message of its fault. -/
theorem answerStatement_of_error (refused : Plan.table (some limit) statement = .error fault) :
    answerStatement limit statement = .failure fault.message := by
  rw [answerStatement, refused]

/-- The list of a statement that gives no table is answered with the fault of the statement. -/
theorem answerStatements_singleton_of_error
    (refused : Plan.table (some limit) statement = .error fault) :
    answerStatements limit [statement] = .failures [⟨Plan.preview statement, fault⟩] := by
  rw [answerStatements, Plan.ofStatements_singleton_of_error refused]
  rfl

/-- The list of a statement whose table refers to no other is answered with this table. -/
theorem answerStatements_singleton_of_inside
    (given : Plan.table (some limit) statement = .ok table)
    (inside : ∀ key ∈ table.foreignKeys, key.target.table = table.name) :
    answerStatements limit [statement] = .success [
      ("tables".toList, .array [.object (table.jsonFields ++ [("order".toList, .integer 1)])]),
      ("order".toList, .array [.string table.name]),
      ("dependencies".toList, .object [(table.name, .array [])])] := by
  -- The table is numbered first and has no dependencies, since it refers to no other one.
  obtain ⟨plan, planned, tables, order, dependencies⟩ := Plan.ofTables_singleton inside
  have answered : answerStatements limit [statement] = .success plan.jsonFields := by
    rw [answerStatements, Plan.ofStatements_singleton_of_ok given, planned]
    rfl
  rw [answered, Plan.jsonFields, Plan.tablesJson, Plan.dependenciesJson, tables, order,
    dependencies]
  rfl

/-- The list of a statement whose table refers to another one is answered with the table's name. -/
theorem answerStatements_singleton_of_leaving
    (given : Plan.table (some limit) statement = .ok table) {key : ForeignKey}
    (member : key ∈ table.foreignKeys) (leaves : key.target.table ≠ table.name) :
    answerStatements limit [statement] = .failure
      ("Circular dependency detected in table definitions: ".toList ++ table.name) := by
  -- The plan fails for the only table that it should have.
  have failed : Plan.ofTables [table] = .error (.circular [table.name]) := by
    rw [Plan.ofTables, CreationOrder.resolve_singleton_circular member leaves]
    rfl
  rw [answerStatements, Plan.ofStatements_singleton_of_ok given, failed]
  rfl

end Endpoint

namespace Request

open Endpoint

/-- A text that is not empty is read as a statement at the place for one. -/
theorem answer_parse (present : statement ≠ [])
    (alone : Input.field "ddl".toList body = .ok (.string statement)) :
    answer limit ⟨"POST".toList, "/api/tables/parse".toList, body⟩ =
      answerStatement limit statement :=
  answer_of_statement (Input.text_of_field alone present)

/-- Texts of which there are some are read as statements at the place for many. -/
theorem answer_parseMultiple {statements : List Text} (present : statements ≠ [])
    (list : Input.field "ddls".toList listBody = .ok (.array (statements.map .string))) :
    answer limit ⟨"POST".toList, "/api/tables/parse-multiple".toList, listBody⟩ =
      answerStatements limit statements :=
  answer_of_items (Input.texts_of_field list present) (replyToItems_ofText limit statements)

/-- A statement alone is refused for the same reason for which the list of it is refused, where the
beginning of the statement is shown with the reason. A table that is read from the statement alone
is the only one of the plan for the list, unless a key leads to another table: then the list has no
order, and just this table is named. -/
theorem answer_single_eq_list (limit : Int) (present : statement ≠ [])
    (alone : Input.field "ddl".toList body = .ok (.string statement))
    (list : Input.field "ddls".toList listBody = .ok (.array [.string statement])) :
    (∀ message : Text, answer limit ⟨"POST".toList, "/api/tables/parse".toList, body⟩ =
        ⟨400, .object [("success".toList, .bool false), ("error".toList, .string message)]⟩ ↔
      answer limit ⟨"POST".toList, "/api/tables/parse-multiple".toList, listBody⟩ =
        ⟨400, .object [("success".toList, .bool false), ("errors".toList, .array [.object
          [("ddl".toList, .string (statement.take 100 ++ "...".toList)),
            ("error".toList, .string message)]])]⟩) ∧
    ∀ table : Table, answer limit ⟨"POST".toList, "/api/tables/parse".toList, body⟩ =
        ⟨200, .object [("success".toList, .bool true), ("table".toList, table.toJson)]⟩ →
      ((∀ key ∈ table.foreignKeys, key.target.table = table.name) →
        answer limit ⟨"POST".toList, "/api/tables/parse-multiple".toList, listBody⟩ =
          ⟨200, .object [("success".toList, .bool true),
            ("tables".toList, .array [.object
              (table.jsonFields ++ [("order".toList, .integer 1)])]),
            ("order".toList, .array [.string table.name]),
            ("dependencies".toList, .object [(table.name, .array [])])]⟩) ∧
      ((∃ key ∈ table.foreignKeys, key.target.table ≠ table.name) →
        answer limit ⟨"POST".toList, "/api/tables/parse-multiple".toList, listBody⟩ =
          ⟨400, .object [("success".toList, .bool false), ("error".toList, .string
            ("Circular dependency detected in table definitions: ".toList ++ table.name))]⟩) := by
  -- Both places read the same statement, once alone and once as the only one of a list.
  rw [answer_parse present alone, answer_parseMultiple (List.cons_ne_nil statement []) list]
  cases read : Plan.table (some limit) statement with
  | error fault =>
    rw [answerStatement_of_error read, answerStatements_singleton_of_error read]
    constructor
    · intro message
      simp [Response.failure, Response.failures, ItemError.toJson, Plan.preview]
    · intro table given
      simp [Response.failure] at given
  | ok found =>
    rw [answerStatement_of_ok read]
    constructor
    · intro message
      -- Neither response is the one of a refused statement.
      by_cases inside : ∀ key ∈ found.foreignKeys, key.target.table = found.name
      · rw [answerStatements_singleton_of_inside read inside]
        simp [Response.ofTable, Response.success]
      · push Not at inside
        obtain ⟨key, member, leaves⟩ := inside
        rw [answerStatements_singleton_of_leaving read member leaves]
        simp [Response.ofTable, Response.success, Response.failure]
    · intro table given
      -- Both answers show the same fields, and so the same name and the same keys.
      have same : found.jsonFields = table.jsonFields := by
        simpa [Response.ofTable, Response.success, Table.toJson] using given
      obtain ⟨name, keys⟩ := Table.eq_of_jsonFields same
      rw [← keys, ← name, ← same]
      constructor
      · exact answerStatements_singleton_of_inside read
      · intro ⟨key, member, leaves⟩
        exact answerStatements_singleton_of_leaving read member leaves

/-- A table that refers to another one is given alone, and has no order in a list. -/
theorem answer_single_eq_list_leaving :
    answer 50 ⟨"POST".toList, "/api/tables/parse".toList,
        "\x7b\"ddl\": \"CREATE TABLE a (i INT REFERENCES b(j))\"\x7d".toUTF8.data.toList⟩ =
      .ofTable ⟨"a".toList,
        [⟨"i".toList, "INT".toList, true, false, false, none, some ⟨"b".toList, "j".toList⟩⟩],
        [⟨"i".toList, ⟨"b".toList, "j".toList⟩⟩]⟩ ∧
      answer 50 ⟨"POST".toList, "/api/tables/parse-multiple".toList,
        "\x7b\"ddls\": [\"CREATE TABLE a (i INT REFERENCES b(j))\"]\x7d".toUTF8.data.toList⟩ =
      .failure ("Circular dependency detected in table definitions: ".toList ++ "a".toList) := by
  -- Both bodies hold the same statement.
  have alone : Input.field "ddl".toList
      "\x7b\"ddl\": \"CREATE TABLE a (i INT REFERENCES b(j))\"\x7d".toUTF8.data.toList =
        .ok (.string "CREATE TABLE a (i INT REFERENCES b(j))".toList) := by cbv
  have list : Input.field "ddls".toList
      "\x7b\"ddls\": [\"CREATE TABLE a (i INT REFERENCES b(j))\"]\x7d".toUTF8.data.toList =
        .ok (.array [.string "CREATE TABLE a (i INT REFERENCES b(j))".toList]) := by cbv
  have read : Plan.table (some 50) "CREATE TABLE a (i INT REFERENCES b(j))".toList =
      .ok ⟨"a".toList,
        [⟨"i".toList, "INT".toList, true, false, false, none, some ⟨"b".toList, "j".toList⟩⟩],
        [⟨"i".toList, ⟨"b".toList, "j".toList⟩⟩]⟩ := by decide +kernel
  have given := (answer_parse (by simp) alone).trans (answerStatement_of_ok read)
  have listed := (answer_single_eq_list 50 (by simp) alone list).2 _ given
  exact ⟨given, listed.2 (by decide)⟩

end Request

end Ddl
