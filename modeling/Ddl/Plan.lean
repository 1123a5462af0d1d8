import Ddl.CreationOrder
import Ddl.Table.Statement

/-! A plan puts the tables of many statements into the order in which they can be created. -/

namespace Ddl

/-- Why one of many statements gives no table. -/
inductive ItemFault where
  /-- The statement has more characters than the limit allows. -/
  | tooLarge (length : Nat) (limit : Int)
  /-- The statement is short enough and cannot be read. -/
  | statement (error : StatementError)
  deriving DecidableEq

/-- What is said about one of many statements that gives no table. -/
def ItemFault.message : ItemFault → Text
  | tooLarge length limit =>
    "DDL is too large: ".toList ++ Text.ofNat length ++ " characters (limit ".toList ++
      Text.ofInt limit ++ [')']
  | statement error => error.message

/-- A statement that gives no table, shown by its beginning. -/
structure ItemError where
  /-- The beginning of the statement, and dots. -/
  preview : Text
  /-- What is wrong with the statement. -/
  fault : ItemFault
  deriving DecidableEq

/-- Why many statements give no plan. -/
inductive PlanError where
  /-- Some of the statements give no table. -/
  | items (errors : List ItemError)
  /-- There is no order for creating the tables. -/
  | dependency (error : DependencyError)
  deriving DecidableEq

/-- What is said about many statements that give no plan. -/
def PlanError.message : PlanError → Text
  | items errors => Text.ofNat errors.length ++ "개의 DDL 파싱에 실패했습니다.".toList
  | dependency error => error.message

/-- Tables in the order in which they can be created. -/
structure Plan where
  /-- The tables in that order. -/
  tables : List Table
  /-- The names of the tables in that order. -/
  order : List Text
  /-- For each table the names of the others that it refers to, in the order of the statements. -/
  dependencies : OrderedMap (List Text)

namespace Plan

/-- The beginning of a statement that is shown when the statement is faulty. -/
def preview (statement : Text) : Text :=
  -- The dots follow even a statement that is shown completely.
  statement.take 100 ++ "...".toList

/-- The table that one of many statements creates, if the statement keeps to the limit. -/
def table (limit? : Option Int) (statement : Text) : Except ItemFault Table :=
  -- The length decides before the statement is read.
  match limit? with
  | some limit =>
    if limit < statement.length then .error (.tooLarge statement.length limit)
    else (Table.ofStatement statement).mapError .statement
  | none => (Table.ofStatement statement).mapError .statement

/-- The error of a statement that gives no table. -/
def itemError? (limit? : Option Int) (statement : Text) : Option ItemError :=
  match table limit? statement with
  | .ok _ => none
  | .error fault => some ⟨preview statement, fault⟩

/-- The table of a statement that gives one. -/
def table? (limit? : Option Int) (statement : Text) : Option Table :=
  (table limit? statement).toOption

/-- The plan for tables that are read already. -/
def ofTables (tables : List Table) : Except DependencyError Plan := do
  let order ← CreationOrder.resolve tables
  let byName := OrderedMap.ofList (tables.map fun table => (table.name, table))
  return ⟨order.filterMap byName.get?, order, CreationOrder.dependencyMap tables⟩

/-- The plan for the tables of many statements, of which each may be limited in length. -/
def ofStatements (limit? : Option Int) (statements : List Text) : Except PlanError Plan :=
  -- All faulty statements are reported together, before any order is looked for.
  let errors := statements.filterMap (itemError? limit?)
  if errors = [] then
    (ofTables (statements.filterMap (table? limit?))).mapError .dependency
  else .error (.items errors)

end Plan

end Ddl
