import Ddl.Text.Basic

/-! Tables with their columns, foreign keys and the tables that they refer to. -/

namespace Ddl

/-- The column of a table that a reference points to. -/
structure Target where
  /-- The name of the table. -/
  table : Text
  /-- The name of its column. -/
  column : Text
  deriving DecidableEq

/-- A foreign key from a column of one table to a column of the same or another table. -/
structure ForeignKey where
  /-- The name of the column that holds the key. -/
  column : Text
  /-- The column that the key refers to. -/
  target : Target
  deriving DecidableEq

/-- A column of a table. -/
structure Column where
  /-- The name of the column. -/
  name : Text
  /-- The type of its values as it was written, with its arguments. -/
  type : Text
  /-- Whether the column may hold no value. -/
  nullable : Bool
  /-- Whether the column is the primary key of its table. -/
  primaryKey : Bool
  /-- Whether values of the column may not repeat. -/
  unique : Bool
  /-- The default value as it was written, without quotes at its ends. -/
  default? : Option Text
  /-- The column that this one refers to. -/
  references? : Option Target
  deriving DecidableEq

/-- A table as one statement defines it. -/
structure Table where
  /-- The name of the table. -/
  name : Text
  /-- Its columns in the order of their definitions. -/
  columns : List Column
  /-- Its foreign keys in the order of their definitions. -/
  foreignKeys : List ForeignKey
  deriving DecidableEq

namespace Table

/-- The names of other tables that the foreign keys refer to, one for each such key. -/
def outgoing (table : Table) : List Text :=
  -- A reference to the table itself never delays its creation.
  (table.foreignKeys.map fun key => key.target.table).filter (· ≠ table.name)

/-- The names of other tables that the table refers to, each once, in the order of first mention. -/
def dependencies (table : Table) : List Text :=
  table.outgoing.eraseDups

end Table

end Ddl
