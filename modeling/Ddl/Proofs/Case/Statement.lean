import Ddl.Proofs.Case.Pattern
import Ddl.Table.Statement

/-! Statements that differ only in the case of letters give tables that differ only in the case of
letters, or they are refused for the same reason. -/

namespace Ddl

open Text

/-- The reference in small letters. -/
def Target.lower (target : Target) : Target :=
  ⟨target.table.lower, target.column.lower⟩

/-- The foreign key in small letters. -/
def ForeignKey.lower (key : ForeignKey) : ForeignKey :=
  ⟨key.column.lower, key.target.lower⟩

/-- The column in small letters. -/
def Column.lower (column : Column) : Column where
  name := column.name.lower
  type := column.type.lower
  nullable := column.nullable
  primaryKey := column.primaryKey
  unique := column.unique
  default? := column.default?.map Text.lower
  references? := column.references?.map Target.lower

/-- The body of a table in small letters. -/
def TableBody.lower (body : TableBody) : TableBody :=
  ⟨body.columns.map Column.lower, body.foreignKeys.map ForeignKey.lower⟩

/-- The table in small letters. -/
def Table.lower (table : Table) : Table :=
  ⟨table.name.lower, table.columns.map Column.lower, table.foreignKeys.map ForeignKey.lower⟩

/-- The fault of a statement with its clause in small letters. -/
def StatementError.lower : StatementError → StatementError
  | missingTableName => missingTableName
  | missingColumnBlock => missingColumnBlock
  | invalidConstraint clause => invalidConstraint clause.lower

namespace ColumnClause

variable (clause : Text)

/-- The default is in small letters. -/
theorem default?_lower : default? clause.lower = (default? clause).map Text.lower := by
  -- The option is found at the same place, and no letter is trimmed from its value.
  rw [default?, default?, Pattern.search?_lower rfl, Option.map_map, Option.map_map]
  congr 1
  funext found
  rw [Function.comp_apply, Function.comp_apply, found.groupText_lower, trimBy_lower isQuote_toLower]

/-- The target of a reference is in small letters. -/
theorem references?_lower : references? clause.lower = (references? clause).map Target.lower := by
  -- Both names are groups of the match, which stands at the same place.
  rw [references?, references?, Pattern.search?_lower rfl, Option.map_map, Option.map_map]
  congr 1
  funext found
  simp [Target.lower, Match.groupText_lower]

/-- The column of a clause is in small letters, and has the same options. -/
theorem column?_lower : column? clause.lower = (column? clause).map Column.lower := by
  -- No pattern of an option looks at the case of letters.
  rw [column?, column?, Pattern.matchStart?_lower rfl, Option.map_map, Option.map_map,
    Pattern.occursIn_lower rfl, Pattern.occursIn_lower rfl, Pattern.occursIn_lower rfl,
    default?_lower, references?_lower]
  congr 1
  funext found
  simp [Column.lower, Match.groupText_lower]

end ColumnClause

namespace ForeignKeyClause

variable (clause : Text)

/-- A clause opens a constraint in small letters when it opens one. -/
theorem opens_lower : opens clause.lower = opens clause := by
  rw [opens, opens, Pattern.matchStart?_lower rfl, Option.isSome_map]

/-- The key of a clause is in small letters. -/
theorem foreignKey?_lower :
    foreignKey? clause.lower = (foreignKey? clause).map ForeignKey.lower := by
  -- All of its names are groups of one match.
  rw [foreignKey?, foreignKey?, Pattern.search?_lower rfl, Option.map_map, Option.map_map]
  congr 1
  funext found
  simp [ForeignKey.lower, Target.lower, Match.groupText_lower]

end ForeignKeyClause

namespace TableHeader

/-- The header ends at the same place. -/
theorem find?_lower (text : Text) :
    find? text.lower = (find? text).map fun header => ⟨header.name.lower, header.start⟩ := by
  -- The place is counted from the end of the text, and no text changes its length.
  rw [find?, find?, Pattern.search?_lower rfl, Option.map_map, Option.map_map]
  congr 1
  funext found
  have behind : found.lower.rest.length = found.rest.length := length_lower found.rest
  rw [Function.comp_apply, Function.comp_apply, found.groupText_lower, behind, length_lower]

end TableHeader

namespace TableBody

/-- The block is in small letters, and begins and ends at the same places. -/
theorem block?_lower (text : Text) (start : Nat) :
    block? text.lower start = (block? text start).map Text.lower := by
  -- What follows the header is in small letters, too.
  have behind : text.lower.drop start = Text.lower (text.drop start) := by
    simp [Text.lower, List.map_drop]
  rw [block?, block?, behind, Pattern.search?_lower rfl, Option.map_map, Option.map_map]
  congr 1
  funext found
  exact found.groupText_lower 0

/-- The body of a column in small letters is in small letters. -/
theorem ofColumn_lower (column : Column) : ofColumn column.lower = (ofColumn column).lower := by
  cases references : column.references? <;>
    simp [ofColumn, lower, Column.lower, ForeignKey.lower, references]

/-- A clause in small letters gives its body in small letters, or its fault. -/
theorem ofClause_lower (clause : Text) : ofClause clause.lower =
    ((ofClause clause).map lower).mapError StatementError.lower := by
  rw [ofClause, ofClause, ForeignKeyClause.opens_lower, ForeignKeyClause.foreignKey?_lower,
    ColumnClause.column?_lower]
  split
  · -- A foreign key without a reference is the fault, and the clause is told with it.
    cases ForeignKeyClause.foreignKey? clause <;> rfl
  · cases ColumnClause.column? clause with
    | none => rfl
    | some column => exact congrArg Except.ok (ofColumn_lower column)

/-- Two bodies in small letters are put together in small letters. -/
theorem append_lower (first second : TableBody) :
    first.lower.append second.lower = (first.append second).lower := by
  simp [append, lower]

/-- Clauses in small letters give their body in small letters, or the first fault. -/
theorem ofClauses_lower (clauses : List Text) : ofClauses (clauses.map Text.lower) =
    ((ofClauses clauses).map lower).mapError StatementError.lower := by
  -- The first clause decides, and the later ones matter only when it is not faulty.
  induction clauses with
  | nil => rfl
  | cons clause later ih =>
    rw [List.map_cons, ofClauses, ofClauses, ofClause_lower, ih]
    cases ofClause clause with
    | error fault => rfl
    | ok first =>
      cases ofClauses later with
      | error fault => rfl
      | ok second => exact congrArg Except.ok (append_lower first second)

/-- A block in small letters gives its body in small letters, or the first fault. -/
theorem ofBlock_lower (block : Text) : ofBlock block.lower =
    ((ofBlock block).map lower).mapError StatementError.lower := by
  -- Neither commas nor white space have a case.
  have trimmed : (CommaList.split block.lower).map Text.trim =
      ((CommaList.split block).map Text.trim).map Text.lower := by
    rw [CommaList.split_lower, List.map_map, List.map_map]
    congr 1
    funext part
    exact trim_lower part
  rw [ofBlock, trimmed, ofClauses_lower, ofBlock]

end TableBody

/-- A statement in small letters gives the table in small letters, or its fault. -/
theorem Table.ofStatement_lower (statement : Text) : Table.ofStatement statement.lower =
    ((Table.ofStatement statement).map Table.lower).mapError StatementError.lower := by
  -- Header, block and clauses are found one after another, each at the same place.
  rw [Table.ofStatement, Table.ofStatement, normalize_lower, TableHeader.find?_lower]
  cases TableHeader.find? (normalize statement) with
  | none => rfl
  | some header =>
    simp only [Option.map_some, Option.elim_some, bind, Except.bind]
    rw [TableBody.block?_lower]
    cases TableBody.block? (normalize statement) header.start with
    | none => rfl
    | some block =>
      simp only [Option.map_some, Option.elim_some]
      rw [TableBody.ofBlock_lower]
      cases TableBody.ofBlock block <;> rfl

/-- The references are the same up to the case of ASCII letters. -/
structure Target.SameLetters (first second : Target) : Prop where
  table : Text.SameLetters first.table second.table
  column : Text.SameLetters first.column second.column

/-- The foreign keys are the same up to the case of ASCII letters. -/
structure ForeignKey.SameLetters (first second : ForeignKey) : Prop where
  column : Text.SameLetters first.column second.column
  target : first.target.SameLetters second.target

/-- The columns have the same flags and the same optional parts, and otherwise they are the same up
to the case of ASCII letters. -/
structure Column.SameLetters (first second : Column) : Prop where
  name : Text.SameLetters first.name second.name
  type : Text.SameLetters first.type second.type
  nullable : first.nullable = second.nullable
  primaryKey : first.primaryKey = second.primaryKey
  unique : first.unique = second.unique
  default : Option.Rel Text.SameLetters first.default? second.default?
  references : Option.Rel Target.SameLetters first.references? second.references?

/-- The tables have the same columns and the same foreign keys in the same order, up to the case of
ASCII letters. -/
structure Table.SameLetters (first second : Table) : Prop where
  name : Text.SameLetters first.name second.name
  columns : List.Forall₂ Column.SameLetters first.columns second.columns
  foreignKeys : List.Forall₂ ForeignKey.SameLetters first.foreignKeys second.foreignKeys

/-- The same comes of two statements, up to the case of ASCII letters. -/
inductive SameOutcome : Except StatementError Table → Except StatementError Table → Prop
  | table {first second : Table} (same : first.SameLetters second) :
    SameOutcome (.ok first) (.ok second)
  | missingTableName : SameOutcome (.error .missingTableName) (.error .missingTableName)
  | missingColumnBlock : SameOutcome (.error .missingColumnBlock) (.error .missingColumnBlock)
  | invalidConstraint {first second : Text} (same : Text.SameLetters first second) :
    SameOutcome (.error (.invalidConstraint first)) (.error (.invalidConstraint second))

section

variable {α β : Type} {lowered : α → β} {same : α → α → Prop}
  (alike : ∀ first second, lowered first = lowered second → same first second)

include alike

/-- Lists that are the same in small letters have elements that are the same one by one. -/
theorem forall_of_map_eq {first second : List α} (equal : first.map lowered = second.map lowered) :
    List.Forall₂ same first second := by
  rw [← List.forall₂_eq_eq_eq, List.forall₂_map_left_iff, List.forall₂_map_right_iff] at equal
  exact equal.imp alike

/-- Values that are the same in small letters are related when there are two of them. -/
theorem rel_of_map_eq {first second : Option α} (equal : first.map lowered = second.map lowered) :
    Option.Rel same first second := by
  -- Both are there or neither is.
  cases first with
  | none =>
    cases second with
    | none => exact .none
    | some second => simp at equal
  | some first =>
    cases second with
    | none => simp at equal
    | some second => exact .some (alike first second (by simpa using equal))

end

/-- Targets that agree in small letters have the same letters. -/
theorem Target.sameLetters_of_lower (first second : Target) (equal : first.lower = second.lower) :
    first.SameLetters second := by
  rw [Target.lower, Target.lower, Target.mk.injEq] at equal
  exact ⟨sameLetters_iff.mpr equal.1, sameLetters_iff.mpr equal.2⟩

/-- Keys that agree in small letters have the same letters. -/
theorem ForeignKey.sameLetters_of_lower (first second : ForeignKey)
    (equal : first.lower = second.lower) : first.SameLetters second := by
  rw [ForeignKey.lower, ForeignKey.lower, ForeignKey.mk.injEq] at equal
  exact ⟨sameLetters_iff.mpr equal.1, Target.sameLetters_of_lower _ _ equal.2⟩

/-- Columns that agree in small letters have the same letters. -/
theorem Column.sameLetters_of_lower (first second : Column) (equal : first.lower = second.lower) :
    first.SameLetters second := by
  -- They agree field by field.
  rw [Column.lower, Column.lower, Column.mk.injEq] at equal
  obtain ⟨name, type, nullable, primaryKey, unique, default, references⟩ := equal
  exact {
    name := sameLetters_iff.mpr name
    type := sameLetters_iff.mpr type
    nullable := nullable
    primaryKey := primaryKey
    unique := unique
    default := rel_of_map_eq (fun _ _ => sameLetters_iff.mpr) default
    references := rel_of_map_eq Target.sameLetters_of_lower references }

/-- Tables that agree in small letters have the same letters. -/
theorem Table.sameLetters_of_lower (first second : Table) (equal : first.lower = second.lower) :
    first.SameLetters second := by
  -- Columns and keys agree one by one.
  rw [Table.lower, Table.lower, Table.mk.injEq] at equal
  obtain ⟨name, columns, foreignKeys⟩ := equal
  exact ⟨sameLetters_iff.mpr name, forall_of_map_eq Column.sameLetters_of_lower columns,
    forall_of_map_eq ForeignKey.sameLetters_of_lower foreignKeys⟩

/-- Outcomes that are the same in small letters are the same up to the case of letters. -/
theorem sameOutcome_of_lower {first second : Except StatementError Table}
    (equal : (first.map Table.lower).mapError StatementError.lower =
      (second.map Table.lower).mapError StatementError.lower) : SameOutcome first second := by
  cases first with
  | ok table =>
    cases second with
    | ok other => exact .table (Table.sameLetters_of_lower _ _ (Except.ok.inj equal))
    | error fault => cases equal
  | error fault =>
    cases second with
    | ok other => cases equal
    | error other =>
      have faults : fault.lower = other.lower := Except.error.inj equal
      -- Different faults stay different in small letters.
      cases fault <;> cases other <;> simp only [StatementError.lower, reduceCtorEq] at faults
      case missingTableName => exact .missingTableName
      case missingColumnBlock => exact .missingColumnBlock
      case invalidConstraint clause another =>
        rw [StatementError.invalidConstraint.injEq] at faults
        exact .invalidConstraint (sameLetters_iff.mpr faults)

/-- Two statements of one length that differ only in the case of ASCII letters give tables that
differ only in that too, or they are refused for the same reason. -/
theorem ofStatement_sameLetters {first second : Text} (same : Text.SameLetters first second) :
    SameOutcome (Table.ofStatement first) (Table.ofStatement second) := by
  have equal := congrArg Table.ofStatement (sameLetters_iff.mp same)
  rw [Table.ofStatement_lower, Table.ofStatement_lower] at equal
  exact sameOutcome_of_lower equal

/-- The kelvin sign stands for a letter of a keyword in both statements. -/
theorem ofStatement_sameLetters_kelvin :
    Text.SameLetters "create table Users (Id int primary \u212Aey default 'A')".toList
        "CREATE Table uSERS (ID INT Primary \u212AEY DEFAULT 'a')".toList ∧
      SameOutcome (.ok ⟨"Users".toList,
          [⟨"Id".toList, "int".toList, true, true, false, some "A".toList, none⟩], []⟩)
        (Table.ofStatement "CREATE Table uSERS (ID INT Primary \u212AEY DEFAULT 'a')".toList) := by
  -- Only the letters from a to z are made small, and the sign is the same one in both statements.
  have same : Text.SameLetters "create table Users (Id int primary \u212Aey default 'A')".toList
      "CREATE Table uSERS (ID INT Primary \u212AEY DEFAULT 'a')".toList :=
    sameLetters_iff.mpr (by decide +kernel)
  have read : Table.ofStatement "create table Users (Id int primary \u212Aey default 'A')".toList =
      .ok ⟨"Users".toList,
        [⟨"Id".toList, "int".toList, true, true, false, some "A".toList, none⟩], []⟩ := by
    decide +kernel
  exact ⟨same, read ▸ ofStatement_sameLetters same⟩

end Ddl
