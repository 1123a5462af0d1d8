import Ddl.Pattern.Basic
import Ddl.Table.Basic

/-! A foreign key clause is a named constraint on a table that refers to a column. -/

namespace Ddl

namespace ForeignKeyClause

open Pattern

/-- The beginning that makes a clause a foreign key clause. -/
def opening : Pattern :=
  keyword "CONSTRAINT" ++ spaces ++ longest .word ++ spaces ++
    keyword "FOREIGN" ++ spaces ++ keyword "KEY"

/-- The column that holds the key and the column that it refers to, each in parentheses. -/
def body : Pattern :=
  keyword "FOREIGN" ++ spaces ++ keyword "KEY" ++ someSpaces ++
    char '(' ++ identifier ++ char ')' ++ spaces ++
    keyword "REFERENCES" ++ spaces ++ identifier ++ someSpaces ++ char '(' ++ identifier ++ char ')'

/-- Whether a clause has to be read as a foreign key. -/
def opens (clause : Text) : Bool :=
  (opening.matchStart? clause).isSome

/-- The foreign key that stands first in a clause. -/
def foreignKey? (clause : Text) : Option ForeignKey :=
  (body.search? clause).map fun found =>
    ⟨found.groupText 0, found.groupText 1, found.groupText 2⟩

end ForeignKeyClause

end Ddl
