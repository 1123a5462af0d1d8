import Ddl.Script.Statements
import Ddl.Table.Statement
import Ddl.Text.Lines
import Ddl.Text.Utf8

/-! The tables of a file are read from those of its statements that create tables. -/

namespace Ddl

/-- Why a file gives no tables. -/
inductive FileError where
  /-- There is no file at the path. -/
  | notFound (path : Text)
  /-- The bytes of the file are no text. -/
  | unreadable (fault : Utf8.Fault)
  /-- The text of the file cannot be cut into statements. -/
  | script (error : ScriptError)
  /-- A statement gives no table. -/
  | statement (error : StatementError)
  deriving DecidableEq

/-- What is said about a file that gives no tables. -/
def FileError.message : FileError → Text
  | notFound path => "DDL file not found: ".toList ++ path
  | unreadable fault => fault.message
  | script error => error.message
  | statement error => error.message

/-- A file by its path, with its bytes if it exists. -/
structure File where
  /-- The path as it was given. -/
  path : Text
  /-- The contents of the file. -/
  bytes? : Option (List UInt8)

namespace File

open Pattern

/-- The keywords that tell a statement that creates a table. -/
def createTable : Pattern :=
  keyword "CREATE" ++ spaces ++ keyword "TABLE" ++ wordEnd

/-- Whether a statement is to be read as a table. -/
def createsTable (statement : Text) : Bool :=
  createTable.occursIn (normalize statement)

/-- The text of a file, in which all lines end with line feeds. -/
def text (file : File) : Except FileError Text :=
  match file.bytes? with
  | none => .error (.notFound file.path)
  | some bytes =>
    match Utf8.decode bytes with
    | .ok text => .ok text.unifyLineEnds
    | .error fault => .error (.unreadable fault)

/-- The tables that statements create, or the error of the first one that gives none. -/
def tablesOf (statements : List Text) : Except StatementError (List Table) :=
  -- Statements of other kinds are passed over.
  (statements.filter createsTable).mapM Table.ofStatement

/-- The tables of a text in the order of their statements. -/
def tablesOfText (text : Text) : Except FileError (List Table) :=
  match Script.statements text with
  | .error error => .error (.script error)
  | .ok statements =>
    match tablesOf statements with
    | .error error => .error (.statement error)
    | .ok tables => .ok tables

/-- The tables of a file in the order of their statements. -/
def tables (file : File) : Except FileError (List Table) := do
  tablesOfText (← file.text)

end File

end Ddl
