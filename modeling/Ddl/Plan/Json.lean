import Ddl.Plan
import Ddl.Table.Json

/-! Plans are written in JSON with the tables numbered in the order of their creation. -/

namespace Ddl

/-- A list of names in JSON. -/
def Json.ofNames (names : List Text) : Json :=
  .array (names.map .string)

/-- A faulty statement in JSON. -/
def ItemError.toJson (error : ItemError) : Json :=
  .object [("ddl".toList, .string error.preview), ("error".toList, .string error.fault.message)]

namespace Plan

/-- A table in JSON together with its number in the order of creation. -/
def numberedTable (table : Table) (number : Nat) : Json :=
  .object (table.jsonFields ++ [("order".toList, .integer number)])

/-- The tables of a plan in JSON, numbered from one on. -/
def tablesJson (plan : Plan) : Json :=
  .array (plan.tables.zipIdx.map fun (table, index) => numberedTable table (index + 1))

/-- What the tables of a plan depend on, in JSON. -/
def dependenciesJson (plan : Plan) : Json :=
  .object (plan.dependencies.entries.map fun entry => (entry.1, Json.ofNames entry.2))

/-- The fields of a plan in JSON. -/
def jsonFields (plan : Plan) : List (Text × Json) :=
  [("tables".toList, plan.tablesJson),
    ("order".toList, Json.ofNames plan.order),
    ("dependencies".toList, plan.dependenciesJson)]

/-- A plan in JSON. -/
def toJson (plan : Plan) : Json :=
  .object plan.jsonFields

end Plan

end Ddl
