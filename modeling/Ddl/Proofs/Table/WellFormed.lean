import Ddl.Proofs.Grammar.Default
import Ddl.Proofs.Table.Outcome
import Ddl.Proofs.Text.Trim

/-! Whatever is read of a statement stands in its normal form: words for names, types with or
without arguments, and default values without white space and without quotes at their ends. -/

namespace Ddl

open Grammar Pattern

/-- A word that stands in a source. -/
structure IsWordIn (source text : Text) : Prop where
  present : text ≠ []
  word : ∀ char ∈ text, isWord char = true
  stands : text <:+: source

/-- A type that stands in a source: a word, and arguments in parentheses or nothing behind it. -/
structure IsTypeIn (source text : Text) : Prop where
  shape : ∃ name suffix, text = name ++ suffix ∧ name ≠ [] ∧ (∀ char ∈ name, isWord char = true) ∧
    (suffix = [] ∨ ∃ arguments, suffix = '(' :: (arguments ++ [')']) ∧ arguments ≠ [] ∧
      ')' ∉ arguments)
  stands : text <:+: source

/-- A default value that stands in a source, which may be empty. -/
structure IsValueIn (source text : Text) : Prop where
  spaceless : ∀ char ∈ text, isSpace char = false
  begins : ∀ char ∈ text.head?, CharClass.isQuote char = false
  ends : ∀ char ∈ text.getLast?, CharClass.isQuote char = false
  stands : text <:+: source

/-- The names of a target are words of the source. -/
structure Target.WellFormed (source : Text) (target : Target) : Prop where
  table : IsWordIn source target.table
  column : IsWordIn source target.column

/-- The names of a foreign key are words of the source. -/
structure ForeignKey.WellFormed (source : Text) (key : ForeignKey) : Prop where
  column : IsWordIn source key.column
  target : key.target.WellFormed source

/-- All texts of a column stand in the source. -/
structure Column.WellFormed (source : Text) (column : Column) : Prop where
  name : IsWordIn source column.name
  type : IsTypeIn source column.type
  default? : ∀ value ∈ column.default?, IsValueIn source value
  references? : ∀ target ∈ column.references?, target.WellFormed source

/-- All texts of a table stand in the source. -/
structure Table.WellFormed (source : Text) (table : Table) : Prop where
  name : IsWordIn source table.name
  columns : ∀ column ∈ table.columns, column.WellFormed source
  foreignKeys : ∀ key ∈ table.foreignKeys, key.WellFormed source

variable {source larger text clause : Text} {found : Match}

/-- A word in a part of a source is one in the whole. -/
theorem IsWordIn.mono (word : IsWordIn source text) (inside : source <:+: larger) :
    IsWordIn larger text :=
  { word with stands := word.stands.trans inside }

/-- A target that is well formed in a part of a source is so in the whole. -/
theorem Target.WellFormed.mono {target : Target} (wellFormed : target.WellFormed source)
    (inside : source <:+: larger) : target.WellFormed larger :=
  ⟨wellFormed.table.mono inside, wellFormed.column.mono inside⟩

/-- A key that is well formed in a part of a source is so in the whole. -/
theorem ForeignKey.WellFormed.mono {key : ForeignKey} (wellFormed : key.WellFormed source)
    (inside : source <:+: larger) : key.WellFormed larger :=
  ⟨wellFormed.column.mono inside, wellFormed.target.mono inside⟩

/-- What is well formed in a part of a source is well formed in the whole. -/
theorem Column.WellFormed.mono {column : Column} (wellFormed : column.WellFormed source)
    (inside : source <:+: larger) : column.WellFormed larger where
  -- Each field stands in the part, and so in the whole.
  name := wellFormed.name.mono inside
  type := { wellFormed.type with stands := wellFormed.type.stands.trans inside }
  default? value given :=
    have isValue := wellFormed.default? value given
    { isValue with stands := isValue.stands.trans inside }
  references? target given := (wellFormed.references? target given).mono inside

/-- A name that stands in a source is a word in it. -/
theorem isWordIn_name (name : Written.Name) (stands : name.text <:+: source) :
    IsWordIn source name.text :=
  ⟨name.present, List.all_eq_true.mp name.word, stands⟩

/-- A type that stands in a source is a type in it. -/
theorem isTypeIn_typeText (type : TypeText) (stands : type.text <:+: source) :
    IsTypeIn source type.text := by
  -- The type is a name alone, or one with arguments behind it.
  refine ⟨⟨type.name.text, _, rfl, type.name.present, List.all_eq_true.mp type.name.word, ?_⟩,
    stands⟩
  cases type.arguments? with
  | none => exact .inl rfl
  | some arguments => exact .inr ⟨_, rfl, arguments.present, arguments.unclosed⟩

namespace ColumnClause

/-- The reference that is found in a clause names a table and a column by words of the clause. -/
theorem wellFormed_references? {target : Target} (given : references? clause = some target) :
    target.WellFormed clause := by
  obtain ⟨found, searched, rfl⟩ := Option.map_eq_some_iff.mp given
  obtain ⟨stretch, described, inside⟩ := exists_describes_of_search? searched
  -- The groups that are kept are just the two names.
  obtain ⟨reference, -, groups⟩ := exists_referenceText described
  rw [found.groupText_eq, found.groupText_eq, groups]
  rw [groups] at inside
  simp only [List.forall_mem_cons] at inside
  exact ⟨isWordIn_name reference.table.name inside.1,
    isWordIn_name reference.column.name inside.2.1⟩

/-- In a clause that does not end with white space the default value is a word without the quotes
at its ends. -/
theorem isValueIn_default? {value : Text} (visible : ∀ char ∈ clause.getLast?, isSpace char = false)
    (given : default? clause = some value) : IsValueIn clause value := by
  obtain ⟨found, searched, rfl⟩ := Option.map_eq_some_iff.mp given
  obtain ⟨place, matched, -⟩ := search?_eq_some_iff.mp searched
  have suffix : clause.drop place <:+ clause := List.drop_suffix place clause
  -- Behind the place the clause ends with the same character, if it has any there.
  have stays : ∀ char ∈ (clause.drop place).getLast?, isSpace char = false := by
    intro char last
    apply visible
    obtain ⟨front, whole⟩ := suffix
    rw [← whole, Option.mem_def, List.getLast?_append, Option.mem_def.mp last]
    rfl
  obtain ⟨written, rest, whole, -, group⟩ := exists_defaultText stays matched
  have stands : written.value <:+: clause := by
    have inside : written.value <:+: clause.drop place :=
      ⟨written.keyword.text ++ written.gap.text, rest, by rw [whole, DefaultText.text]⟩
    exact inside.trans suffix.isInfix
  -- What the quotes leave of the word is still without white space.
  have kept := Text.infix_trimBy CharClass.isQuote written.value
  rw [group]
  exact {
    spaceless := fun char member => written.solid.spaceless char (kept.subset member)
    begins := fun char first => Text.kept_of_head?_trimBy first
    ends := fun char last => Text.kept_of_getLast?_trimBy last
    stands := kept.trans stands }

/-- A clause that does not end with white space gives a well-formed column. -/
theorem wellFormed_column? {column : Column}
    (visible : ∀ char ∈ clause.getLast?, isSpace char = false)
    (given : column? clause = some column) : column.WellFormed clause := by
  obtain ⟨found, matched, rfl⟩ := Option.map_eq_some_iff.mp given
  obtain ⟨stretch, split, described⟩ := describes_of_matchStart? matched
  have inside : stretch <:+: clause := ⟨[], found.rest, split.symm⟩
  -- What a group has read stands in the clause.
  have stands := described.infix_of_mem
  -- The name and the type are the groups of the header, and everything else is found by searches.
  obtain ⟨name, gap, type, -, groups⟩ := exists_columnText described
  rw [groups] at stands
  simp only [List.forall_mem_cons] at stands
  have first : found.groupText 0 = name.name.text := by
    rw [found.groupText_eq, groups]
    rfl
  have second : found.groupText 1 = type.text := by
    rw [found.groupText_eq, groups]
    rfl
  exact {
    name := first ▸ isWordIn_name name.name (stands.1.trans inside)
    type := second ▸ isTypeIn_typeText type (stands.2.1.trans inside)
    default? := fun value given => isValueIn_default? visible given
    references? := fun target given => wellFormed_references? given }

end ColumnClause

namespace ForeignKeyClause

/-- A clause gives a well-formed key. -/
theorem wellFormed_foreignKey? {key : ForeignKey} (given : foreignKey? clause = some key) :
    key.WellFormed clause := by
  -- The three names are the groups of the match, which stand in the clause.
  obtain ⟨found, searched, rfl⟩ := Option.map_eq_some_iff.mp given
  obtain ⟨stretch, described, inside⟩ := exists_describes_of_search? searched
  obtain ⟨written, -, groups⟩ := exists_keyText described
  rw [found.groupText_eq, found.groupText_eq, found.groupText_eq, groups]
  rw [groups] at inside
  simp only [List.forall_mem_cons] at inside
  exact ⟨isWordIn_name written.column.name inside.1,
    isWordIn_name written.reference.table.name inside.2.1,
    isWordIn_name written.reference.column.name inside.2.2.1⟩

end ForeignKeyClause

namespace TableHeader

/-- The name in a header is a word of the text. -/
theorem isWordIn_find? {header : TableHeader} (given : find? text = some header) :
    IsWordIn text header.name := by
  -- The name is the group of the match.
  obtain ⟨found, searched, rfl⟩ := Option.map_eq_some_iff.mp given
  obtain ⟨stretch, described, inside⟩ := exists_describes_of_search? searched
  obtain ⟨written, -, groups⟩ := exists_header described
  rw [found.groupText_eq, groups]
  rw [groups] at inside
  exact isWordIn_name written.name.name (inside _ List.mem_cons_self)

end TableHeader

namespace TableBody

variable {block : Text}

/-- The clauses of a block stand in it and do not end with white space. -/
theorem infix_of_mem_clausesOf (member : clause ∈ clausesOf block) :
    clause <:+: block ∧ ∀ char ∈ clause.getLast?, isSpace char = false := by
  -- A clause is a part of the list, trimmed.
  obtain ⟨part, inSplit, rfl⟩ := List.mem_map.mp member
  have kept : part.trim <:+: part := Text.infix_trimBy isSpace part
  exact ⟨kept.trans (CommaList.infix_of_mem_split inSplit),
    fun char last => Text.kept_of_getLast?_trimBy last⟩

/-- The column of a clause is well formed in the block. -/
theorem wellFormed_columnOf? {column : Column} (member : clause ∈ clausesOf block)
    (given : columnOf? clause = some column) : column.WellFormed block := by
  obtain ⟨inside, visible⟩ := infix_of_mem_clausesOf member
  rw [columnOf?] at given
  split at given
  · -- A foreign key clause gives no column.
    cases given
  · exact (ColumnClause.wellFormed_column? visible given).mono inside

/-- The key of a clause is well formed in the block. -/
theorem wellFormed_keyOf? {key : ForeignKey} (member : clause ∈ clausesOf block)
    (given : keyOf? clause = some key) : key.WellFormed block := by
  obtain ⟨inside, visible⟩ := infix_of_mem_clausesOf member
  rw [keyOf?] at given
  split at given
  · exact (ForeignKeyClause.wellFormed_foreignKey? given).mono inside
  · -- The name of the column and its reference are words of one clause.
    obtain ⟨column, isColumn, given⟩ := Option.bind_eq_some_iff.mp given
    obtain ⟨target, refers, rfl⟩ := Option.map_eq_some_iff.mp given
    have wellFormed := ColumnClause.wellFormed_column? visible isColumn
    exact ForeignKey.WellFormed.mono
      ⟨wellFormed.name, wellFormed.references? target refers⟩ inside

end TableBody

namespace Table

open TableBody

/-- Every table that is read is well formed, with its texts in the normal form of the statement. -/
theorem wellFormed_of_ofStatement {statement : Text} {table : Table}
    (read : ofStatement statement = .ok table) : table.WellFormed (normalize statement) := by
  cases ofStatement_eq_iff.mp read with
  | table searched given sound =>
    -- What is well formed in the block is well formed in the whole statement.
    obtain ⟨opening, closing, -, -, -, rfl⟩ := block?_eq_some_iff.mp given
    have inside := Text.infix_between (normalize statement) opening closing
    refine ⟨TableHeader.isWordIn_find? searched, fun column member => ?_, fun key member => ?_⟩
    · obtain ⟨clause, isClause, gives⟩ := List.mem_filterMap.mp member
      exact (wellFormed_columnOf? isClause gives).mono inside
    · obtain ⟨clause, isClause, gives⟩ := List.mem_filterMap.mp member
      exact (wellFormed_keyOf? isClause gives).mono inside

/-- A statement with arguments of a type, a default value of quotes alone and a reference. -/
def quotesAlone : Text :=
  "CREATE TABLE t (a DECIMAL(10, 2) DEFAULT '' REFERENCES 'u' (k))".toList

/-- A default value of quotes alone is the empty one. -/
theorem wellFormed_of_ofStatement_quotesAlone : ∃ table : Table,
    ofStatement quotesAlone = .ok table ∧ table.columns.map Column.default? = [some []] ∧
      table.WellFormed (normalize quotesAlone) := by
  -- The table has a type with arguments, a default without characters and a reference.
  have read : ofStatement quotesAlone =
      .ok ⟨"t".toList, [⟨"a".toList, "DECIMAL(10, 2)".toList, true, false, false, some [],
        some ⟨"u".toList, "k".toList⟩⟩], [⟨"a".toList, "u".toList, "k".toList⟩]⟩ := by
    decide +kernel
  exact ⟨_, read, rfl, wellFormed_of_ofStatement read⟩

end Table

end Ddl
