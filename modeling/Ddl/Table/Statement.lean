import Ddl.Clause.Column
import Ddl.Clause.ForeignKey
import Ddl.CommaList
import Ddl.Normal

/-! A table is read from the statement that creates it. -/

namespace Ddl

/-- Why a statement gives no table. -/
inductive StatementError where
  /-- No header with the name of a table is found. -/
  | missingTableName
  /-- Nothing stands between parentheses after the header. -/
  | missingColumnBlock
  /-- A foreign key clause does not say which columns it joins. -/
  | invalidConstraint (clause : Text)
  deriving DecidableEq

/-- What is said about a statement that gives no table. -/
def StatementError.message : StatementError → Text
  | missingTableName => "Invalid CREATE TABLE syntax: table name not found".toList
  | missingColumnBlock => "Invalid CREATE TABLE syntax: column definitions not found".toList
  | invalidConstraint clause => "Invalid FOREIGN KEY constraint: ".toList ++ clause

/-- The name of a table, and where the parenthesis after it stands in the statement. -/
structure TableHeader where
  /-- The name of the table. -/
  name : Text
  /-- The number of characters in front of the opening parenthesis. -/
  start : Nat
  deriving DecidableEq

/-- The columns and foreign keys that the clauses of a table give. -/
structure TableBody where
  /-- The columns in the order of their clauses. -/
  columns : List Column
  /-- The foreign keys in the order of their clauses. -/
  foreignKeys : List ForeignKey
  deriving DecidableEq

namespace TableHeader

open Pattern

/-- The header of a table: two keywords, three optional ones, the name and a parenthesis. -/
def pattern : Pattern :=
  keyword "CREATE" ++ spaces ++ keyword "TABLE" ++ spaces ++
    optional (keyword "IF" ++ spaces ++ keyword "NOT" ++ spaces ++ keyword "EXISTS" ++ spaces) ++
    identifier ++ someSpaces ++ char '('

/-- The first header in the text. -/
def find? (text : Text) : Option TableHeader :=
  -- The parenthesis is the last character of the header.
  (pattern.search? text).map fun found =>
    ⟨found.groupText 0, text.length - found.rest.length - 1⟩

end TableHeader

namespace TableBody

open Pattern

/-- A parenthesis, as much text as possible, and the last parenthesis that closes it. -/
def pattern : Pattern :=
  char '(' ++ group (longest .anything) ++ char ')'

/-- The text inside of the first parentheses that are found from a place on. -/
def block? (text : Text) (start : Nat) : Option Text :=
  -- The block reaches to the last closing parenthesis of the whole text.
  (pattern.search? (text.drop start)).map fun found => found.groupText 0

/-- The body with the contents of another one after its own. -/
def append (first second : TableBody) : TableBody :=
  ⟨first.columns ++ second.columns, first.foreignKeys ++ second.foreignKeys⟩

/-- The body that a column alone gives, which holds its reference as a foreign key too. -/
def ofColumn (column : Column) : TableBody :=
  ⟨[column], (column.references?.map fun target => ⟨column.name, target⟩).toList⟩

/-- The body that one clause gives. -/
def ofClause (clause : Text) : Except StatementError TableBody :=
  -- A clause that is neither a foreign key nor a column gives nothing.
  if ForeignKeyClause.opens clause then
    match ForeignKeyClause.foreignKey? clause with
    | some key => .ok ⟨[], [key]⟩
    | none => .error (.invalidConstraint clause)
  else
    match ColumnClause.column? clause with
    | some column => .ok (ofColumn column)
    | none => .ok ⟨[], []⟩

/-- The body that clauses give together, or the fault of the first bad one. -/
def ofClauses : List Text → Except StatementError TableBody
  | [] => .ok ⟨[], []⟩
  | clause :: later => do
    let first ← ofClause clause
    let second ← ofClauses later
    return first.append second

/-- The body that a block of clauses separated by commas gives. -/
def ofBlock (block : Text) : Except StatementError TableBody :=
  ofClauses ((CommaList.split block).map Text.trim)

end TableBody

/-- The table that a statement creates. -/
def Table.ofStatement (statement : Text) : Except StatementError Table := do
  -- The header decides before the block, and the block before its clauses.
  let text := normalize statement
  let header ← (TableHeader.find? text).elim (.error .missingTableName) .ok
  let block ← (TableBody.block? text header.start).elim (.error .missingColumnBlock) .ok
  let body ← TableBody.ofBlock block
  return ⟨header.name, body.columns, body.foreignKeys⟩

end Ddl
