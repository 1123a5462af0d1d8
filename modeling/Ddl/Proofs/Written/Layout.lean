import Ddl.Proofs.Pattern.Words
import Ddl.Table.Statement

/-! A statement can be written in many ways: with its keywords in any case, with quotes around its
names, and with white space of any kind between its tokens. -/

namespace Ddl

/-- How deep in parentheses a text ends that begins at the given depth, unless one of its commas
separates there. -/
def CommaList.depthAfter? : Int → Text → Option Int
  -- Only a comma at depth zero separates.
  | depth, [] => some depth
  | depth, char :: rest =>
    if char = ',' ∧ depth = 0 then none else depthAfter? (depth + deepening char) rest

namespace Written

/-- A text in which no comment begins. -/
structure NoComment (text : Text) : Prop where
  line : ¬['-', '-'] <:+: text
  block : ¬['/', '*'] <:+: text

/-- A text without white space and comments. -/
structure IsToken (text : Text) : Prop extends Solid text, NoComment text

/-- White space between two tokens. -/
structure Gap where
  text : Text
  blank : text.isBlank = true
  present : text ≠ []

/-- The white space of a given text. -/
def Gap.of (text : String) (blank : Text.isBlank text.toList = true := by decide)
    (present : text.toList ≠ [] := by decide) : Gap :=
  ⟨text.toList, blank, present⟩

/-- White space that may be left out. -/
structure Padding where
  text : Text
  blank : text.isBlank = true

/-- The white space of a given text, which may be empty. -/
def Padding.of (text : String) (blank : Text.isBlank text.toList = true := by decide) : Padding :=
  ⟨text.toList, blank⟩

/-- A keyword in any case of its letters. -/
structure Keyword (name : String) where
  text : Text
  isKeyword : Pattern.IsKeyword name
  /-- In capital letters it is the keyword. -/
  spells : text.map Char.toUpper = name.toList

/-- The keyword that a given text spells. -/
def Keyword.of {name : String} (text : String) (isKeyword : Pattern.IsKeyword name := by decide)
    (spells : text.toList.map Char.toUpper = name.toList := by decide) : Keyword name :=
  ⟨text.toList, isKeyword, spells⟩

/-- A name of word characters. -/
structure Name where
  text : Text
  present : text ≠ []
  word : text.all isWord = true

/-- The name of a given text. -/
def Name.of (text : String) (present : text.toList ≠ [] := by decide)
    (word : text.toList.all isWord = true := by decide) : Name :=
  ⟨text.toList, present, word⟩

/-- What stands around a name. -/
inductive Quotes where
  | none
  | single
  | double

/-- The mark on either side of a name. -/
def Quotes.mark : Quotes → Text
  | none => []
  | single => ['\'']
  | double => ['"']

/-- A name with or without quotes. -/
structure QuotedName where
  name : Name
  quotes : Quotes

/-- The name as it is written. -/
def QuotedName.text (quoted : QuotedName) : Text :=
  -- The same mark stands on both sides.
  quoted.quotes.mark ++ quoted.name.text ++ quoted.quotes.mark

/-- The name as it is written between parentheses. -/
def QuotedName.enclosed (quoted : QuotedName) : Text :=
  '(' :: (quoted.text ++ [')'])

/-- The arguments of a type. -/
structure Arguments where
  text : Text
  token : IsToken text
  /-- They have no parentheses of their own. -/
  flat : '(' ∉ text ∧ ')' ∉ text

/-- A type with or without arguments. -/
structure TypeName where
  name : Name
  arguments? : Option Arguments

/-- The arguments of a type between parentheses, if there are any. -/
def TypeName.suffix (type : TypeName) : Text :=
  type.arguments?.elim [] fun arguments => '(' :: (arguments.text ++ [')'])

/-- The type as it is written. -/
def TypeName.text (type : TypeName) : Text :=
  type.name.text ++ type.suffix

/-- A default value. -/
structure Value where
  /-- The value as it is written, with its quotes. -/
  text : Text
  token : IsToken text
  /-- Its commas stand between parentheses, and these are closed. -/
  enclosed : CommaList.depthAfter? 0 text = some 0

/-- The column that a key refers to. -/
structure Reference where
  table : QuotedName
  padding : Padding
  column : QuotedName

/-- The column that is meant. -/
def Reference.target (reference : Reference) : Target :=
  ⟨reference.table.name.text, reference.column.name.text⟩

/-- The kinds of options that a column can have. -/
inductive OptionKind where
  | notNull
  | primaryKey
  | unique
  | default
  | references
  deriving DecidableEq

/-- An option of a column as it is written. -/
inductive ColumnOption where
  | notNull (not : Keyword "NOT") (gap : Gap) (null : Keyword "NULL")
  | primaryKey (primary : Keyword "PRIMARY") (gap : Gap) (key : Keyword "KEY")
  | unique (keyword : Keyword "UNIQUE")
  | default (keyword : Keyword "DEFAULT") (gap : Gap) (value : Value)
  | references (keyword : Keyword "REFERENCES") (gap : Gap) (reference : Reference)

/-- The kind of an option. -/
def ColumnOption.kind : ColumnOption → OptionKind
  | notNull .. => .notNull
  | primaryKey .. => .primaryKey
  | unique .. => .unique
  | default .. => .default
  | references .. => .references

/-- The default value that an option gives. -/
def ColumnOption.value? : ColumnOption → Option Value
  | default _ _ value => some value
  | _ => none

/-- What an option refers to. -/
def ColumnOption.reference? : ColumnOption → Option Reference
  | references _ _ reference => some reference
  | _ => none

/-- The kinds of the options, each of which stands behind white space. -/
def kinds (options : List (Gap × ColumnOption)) : List OptionKind :=
  options.map fun option => option.2.kind

/-- The clause of a column. -/
structure ColumnClause where
  name : QuotedName
  gap : Gap
  type : TypeName
  options : List (Gap × ColumnOption)
  /-- No option is given twice. -/
  once : (kinds options).Nodup

/-- The column that the clause describes. -/
def ColumnClause.column (clause : ColumnClause) : Column where
  name := clause.name.name.text
  type := clause.type.text
  -- A column can be null unless the option excludes it.
  nullable := OptionKind.notNull ∉ kinds clause.options
  primaryKey := OptionKind.primaryKey ∈ kinds clause.options
  unique := OptionKind.unique ∈ kinds clause.options
  -- The quotes at the ends of a default value are not part of it.
  default? := (clause.options.findSome? fun option => option.2.value?).map fun value =>
    value.text.trimBy CharClass.isQuote
  references? := (clause.options.findSome? fun option => option.2.reference?).map Reference.target

/-- The clause of a foreign key. -/
structure KeyClause where
  constraint : Keyword "CONSTRAINT"
  nameGap : Gap
  /-- The name of the constraint, which stands without quotes. -/
  name : Name
  foreignGap : Gap
  foreign : Keyword "FOREIGN"
  keyGap : Gap
  key : Keyword "KEY"
  padding : Padding
  column : QuotedName
  referencesGap : Gap
  references : Keyword "REFERENCES"
  gap : Gap
  reference : Reference

/-- The foreign key that the clause describes. -/
def KeyClause.foreignKey (clause : KeyClause) : ForeignKey :=
  ⟨clause.column.name.text, clause.reference.target⟩

/-- A clause of a statement. -/
inductive Clause where
  | column (clause : ColumnClause)
  | key (clause : KeyClause)

/-- The column that the clause describes. -/
def Clause.column? : Clause → Option Column
  | column clause => some clause.column
  | key _ => none

/-- The foreign keys that the clause describes. -/
def Clause.foreignKeys : Clause → List ForeignKey
  -- A column that refers to another one holds a foreign key.
  | column clause => (clause.column.references?.map fun target =>
      ForeignKey.mk clause.column.name target).toList
  | key clause => [clause.foreignKey]

/-- The keywords that allow the table to exist already. -/
structure IfNotExists where
  ifWord : Keyword "IF"
  notGap : Gap
  notWord : Keyword "NOT"
  existsGap : Gap
  existsWord : Keyword "EXISTS"
  gap : Gap

/-- A clause behind a comma. -/
structure LaterClause where
  before : Padding
  after : Padding
  clause : Clause

/-- A statement that creates a table. -/
structure Statement where
  create : Keyword "CREATE"
  tableGap : Gap
  table : Keyword "TABLE"
  gap : Gap
  ifNotExists? : Option IfNotExists
  name : QuotedName
  opening : Padding
  padding : Padding
  first : Clause
  later : List LaterClause
  closing : Padding
  /-- A semicolon at the end, and the white space before it. -/
  semicolon? : Option Padding

/-- The clauses of the statement. -/
def Statement.clauses (statement : Statement) : List Clause :=
  statement.first :: statement.later.map LaterClause.clause

/-- The table that the statement describes. -/
def Statement.described (statement : Statement) : Table where
  name := statement.name.name.text
  columns := statement.clauses.filterMap Clause.column?
  foreignKeys := statement.clauses.flatMap Clause.foreignKeys

/-- A token and the white space before it. -/
structure Piece where
  /-- The white space, which may be missing. -/
  space : Text
  word : Text

/-- The pieces written one after another. -/
def spell (pieces : List Piece) : Text :=
  pieces.flatMap fun piece => piece.space ++ piece.word

/-- The tokens of a reference behind white space. -/
def Reference.pieces (space : Text) (reference : Reference) : List Piece :=
  [⟨space, reference.table.text⟩, ⟨reference.padding.text, reference.column.enclosed⟩]

/-- The tokens of an option behind white space. -/
def ColumnOption.pieces (space : Text) : ColumnOption → List Piece
  | notNull not gap null => [⟨space, not.text⟩, ⟨gap.text, null.text⟩]
  | primaryKey primary gap key => [⟨space, primary.text⟩, ⟨gap.text, key.text⟩]
  | unique keyword => [⟨space, keyword.text⟩]
  | default keyword gap value => [⟨space, keyword.text⟩, ⟨gap.text, value.text⟩]
  | references keyword gap reference => ⟨space, keyword.text⟩ :: reference.pieces gap.text

/-- The tokens of a column clause behind white space. -/
def ColumnClause.pieces (space : Text) (clause : ColumnClause) : List Piece :=
  ⟨space, clause.name.text⟩ :: ⟨clause.gap.text, clause.type.text⟩ ::
    clause.options.flatMap fun option => option.2.pieces option.1.text

/-- The tokens of a foreign key clause behind white space. -/
def KeyClause.pieces (space : Text) (clause : KeyClause) : List Piece :=
  [⟨space, clause.constraint.text⟩, ⟨clause.nameGap.text, clause.name.text⟩,
    ⟨clause.foreignGap.text, clause.foreign.text⟩, ⟨clause.keyGap.text, clause.key.text⟩,
    ⟨clause.padding.text, clause.column.enclosed⟩,
    ⟨clause.referencesGap.text, clause.references.text⟩] ++
    clause.reference.pieces clause.gap.text

/-- The tokens of a clause behind white space. -/
def Clause.pieces (space : Text) : Clause → List Piece
  | column clause => clause.pieces space
  | key clause => clause.pieces space

/-- The tokens of the keywords behind white space. -/
def IfNotExists.pieces (space : Text) (keywords : IfNotExists) : List Piece :=
  [⟨space, keywords.ifWord.text⟩, ⟨keywords.notGap.text, keywords.notWord.text⟩,
    ⟨keywords.existsGap.text, keywords.existsWord.text⟩]

/-- The comma before a clause, and the tokens of the clause. -/
def LaterClause.pieces (later : LaterClause) : List Piece :=
  ⟨later.before.text, [',']⟩ :: later.clause.pieces later.after.text

/-- The tokens of a statement between its first keyword and the parenthesis that opens. -/
def Statement.header (statement : Statement) : List Piece :=
  ⟨statement.tableGap.text, statement.table.text⟩ ::
    -- The name stands behind the keywords when these are given.
    match statement.ifNotExists? with
    | none => [⟨statement.gap.text, statement.name.text⟩]
    | some keywords =>
      keywords.pieces statement.gap.text ++ [⟨keywords.gap.text, statement.name.text⟩]

/-- The tokens of a statement between its parentheses. -/
def Statement.body (statement : Statement) : List Piece :=
  -- Only the first clause has no comma before it.
  statement.first.pieces statement.padding.text ++ statement.later.flatMap LaterClause.pieces

/-- The tokens of a statement after the parenthesis that closes. -/
def Statement.ending (statement : Statement) : List Piece :=
  (statement.semicolon?.map fun padding => Piece.mk padding.text [';']).toList

/-- The tokens of a statement after its first keyword. -/
def Statement.pieces (statement : Statement) : List Piece :=
  statement.header ++ ⟨statement.opening.text, ['(']⟩ :: (statement.body ++
    ⟨statement.closing.text, [')']⟩ :: statement.ending)

/-- The statement as it is written. -/
def Statement.text (statement : Statement) : Text :=
  statement.create.text ++ spell statement.pieces

end Written

end Ddl
