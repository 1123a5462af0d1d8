import Ddl.Json.Basic
import Ddl.Table.Basic

/-! Tables are written in JSON with a field for each of their parts. -/

namespace Ddl

/-- A column that is referred to, in JSON. -/
def Target.toJson (target : Target) : Json :=
  .object [("table".toList, .string target.table), ("column".toList, .string target.column)]

/-- A foreign key in JSON. -/
def ForeignKey.toJson (key : ForeignKey) : Json :=
  .object [("column".toList, .string key.column), ("references".toList, key.target.toJson)]

/-- A column in JSON, without the fields for which it has no value. -/
def Column.toJson (column : Column) : Json :=
  -- An empty default value is a value.
  .object <|
    [("name".toList, .string column.name),
      ("type".toList, .string column.type),
      ("nullable".toList, .bool column.nullable),
      ("primaryKey".toList, .bool column.primaryKey),
      ("unique".toList, .bool column.unique)] ++
    (column.default?.map fun value => ("defaultValue".toList, Json.string value)).toList ++
    (column.references?.map fun target => ("references".toList, target.toJson)).toList

/-- The fields of a table in JSON. -/
def Table.jsonFields (table : Table) : List (Text × Json) :=
  [("name".toList, .string table.name),
    ("columns".toList, .array (table.columns.map Column.toJson)),
    ("foreignKeys".toList, .array (table.foreignKeys.map ForeignKey.toJson))]

/-- A table in JSON. -/
def Table.toJson (table : Table) : Json :=
  .object table.jsonFields

end Ddl
