import Ddl.Pattern.Basic
import Ddl.Table.Basic

/-! A column clause gives a column by its name and type, and by options found anywhere in it. -/

namespace Ddl

namespace ColumnClause

open Pattern

/-- The name of a column, white space, and a type with arguments in parentheses or without. -/
def header : Pattern :=
  -- The arguments of a type are taken up to the first closing parenthesis.
  identifier ++ spaces ++
    group (longest .word ++
      optional (char '(' ++ longest (.except ')') ++ char ')'))

/-- The option that forbids missing values. -/
def notNull : Pattern :=
  keyword "NOT" ++ spaces ++ keyword "NULL"

/-- The option that makes the column the primary key. -/
def primaryKey : Pattern :=
  keyword "PRIMARY" ++ spaces ++ keyword "KEY"

/-- The option that forbids repeated values. -/
def unique : Pattern :=
  keyword "UNIQUE"

/-- The option that gives a default value, which white space or the end of the clause ends. -/
def defaultOption : Pattern :=
  keyword "DEFAULT" ++ spaces ++ group (shortest (.except '\n')) ++ either spaces atEnd

/-- The option that refers to a column, which is given in parentheses after its table. -/
def referencesOption : Pattern :=
  keyword "REFERENCES" ++ spaces ++ identifier ++ someSpaces ++ char '(' ++ identifier ++ char ')'

/-- The default value that a clause gives, without the quotes at its ends. -/
def default? (clause : Text) : Option Text :=
  (defaultOption.search? clause).map fun found =>
    (found.groupText 0).trimBy CharClass.isQuote

/-- The column that a clause refers to, by the first reference in it. -/
def references? (clause : Text) : Option Target :=
  (referencesOption.search? clause).map fun found =>
    ⟨found.groupText 0, found.groupText 1⟩

/-- The column that a clause defines, when the clause begins with a name and a type. -/
def column? (clause : Text) : Option Column :=
  -- Each option is looked for in the whole clause, whatever stands around it.
  (header.matchStart? clause).map fun found =>
    { name := found.groupText 0
      type := found.groupText 1
      nullable := !notNull.occursIn clause
      primaryKey := primaryKey.occursIn clause
      unique := unique.occursIn clause
      default? := default? clause
      references? := references? clause }

end ColumnClause

end Ddl
