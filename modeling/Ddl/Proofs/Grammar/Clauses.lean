import Ddl.Clause.Column
import Ddl.Clause.ForeignKey
import Ddl.Proofs.Grammar.Words

/-! A column begins with its name and type, a foreign key clause with its keywords, and what these
refer to can stand anywhere in them. -/

namespace Ddl

namespace Grammar

open Pattern Written

/-- The arguments of a type, which the first parenthesis that closes ends. -/
structure ArgumentText where
  text : Text
  present : text ≠ []
  unclosed : ')' ∉ text

/-- A type with arguments or without. -/
structure TypeText where
  name : Name
  arguments? : Option ArgumentText

/-- The type as it is written. -/
def TypeText.text (type : TypeText) : Text :=
  type.name.text ++ type.arguments?.elim [] fun arguments => '(' :: (arguments.text ++ [')'])

/-- The beginning of a foreign key clause. -/
structure KeyOpening where
  constraint : Spelling "CONSTRAINT"
  constraintGap : Gap
  /-- The name of the constraint, without quotes. -/
  name : Name
  nameGap : Gap
  foreign : Spelling "FOREIGN"
  foreignGap : Gap
  key : Spelling "KEY"

/-- The beginning as it is written. -/
def KeyOpening.text (opening : KeyOpening) : Text :=
  opening.constraint.text ++ opening.constraintGap.text ++ opening.name.text ++
    opening.nameGap.text ++ opening.foreign.text ++ opening.foreignGap.text ++ opening.key.text

/-- A table and one of its columns, which a column refers to. -/
structure ReferenceText where
  references : Spelling "REFERENCES"
  gap : Gap
  table : MarkedName
  padding : Padding
  column : MarkedName

/-- The reference as it is written. -/
def ReferenceText.text (reference : ReferenceText) : Text :=
  reference.references.text ++ reference.gap.text ++ reference.table.text ++
    reference.padding.text ++ ['('] ++ reference.column.text ++ [')']

/-- A column that holds a key, and the column that it refers to. -/
structure KeyText where
  foreign : Spelling "FOREIGN"
  foreignGap : Gap
  key : Spelling "KEY"
  padding : Padding
  column : MarkedName
  columnGap : Gap
  reference : ReferenceText

/-- The column with the key, as it is written in front of the reference. -/
def KeyText.front (key : KeyText) : Text :=
  key.foreign.text ++ key.foreignGap.text ++ key.key.text ++ key.padding.text ++ ['('] ++
    key.column.text ++ [')'] ++ key.columnGap.text

/-- The key as it is written. -/
def KeyText.text (key : KeyText) : Text :=
  key.front ++ key.reference.text

variable {stretch text rest : Text} {groups : List Text}

/-- The groups of a column are its name and its type. -/
theorem exists_columnText (described : ColumnClause.header.Describes stretch groups rest) :
    ∃ (name : MarkedName) (gap : Gap) (type : TypeText),
      stretch = name.text ++ gap.text ++ type.text ∧ groups = [name.name.text, type.text] := by
  obtain ⟨_, _, _, _, rfl, rfl, toGap, typed⟩ := describes_append_iff.mp described
  obtain ⟨gap, _, _, rfl, rfl, toName⟩ := toGap.exists_last exists_gap
  obtain ⟨name, rfl, rfl⟩ := exists_markedName toName
  -- The type is a name, with or without arguments behind it.
  obtain ⟨_, rfl, shaped⟩ := describes_group_iff.mp typed
  obtain ⟨_, _, _, _, rfl, rfl, typeNamed, argued⟩ := describes_append_iff.mp shaped
  obtain ⟨typeName, rfl, rfl⟩ := exists_name typeNamed
  rcases describes_optional_iff.mp argued with argued | ⟨rfl, rfl⟩
  · obtain ⟨_, _, rfl, rfl, toArguments⟩ := argued.exists_last_char
    obtain ⟨_, _, _, _, rfl, rfl, opens, inside⟩ := describes_append_iff.mp toArguments
    obtain ⟨rfl, rfl⟩ := describes_char_iff.mp opens
    obtain ⟨isRun, rfl⟩ := describes_longest_iff.mp inside
    -- The run has every character but the parenthesis that closes.
    have unclosed : ')' ∉ _ := fun member => by simpa [CharClass.holds] using isRun.held _ member
    exact ⟨name, gap, ⟨typeName, some ⟨_, isRun.present, unclosed⟩⟩, rfl, rfl⟩
  · exact ⟨name, gap, ⟨typeName, none⟩, rfl, by simp [TypeText.text]⟩

/-- The opening of a foreign key clause is matched by its pattern. -/
theorem KeyOpening.describes (opening : KeyOpening) :
    ForeignKeyClause.opening.Describes opening.text [] rest :=
  -- The parts stand behind each other as the patterns do.
  (((((opening.constraint.describes.append (describes_gap opening.constraintGap)).append
    (describes_name opening.name)).append (describes_gap opening.nameGap)).append
    opening.foreign.describes).append (describes_gap opening.foreignGap)).append
    opening.key.describes

/-- What the pattern of an opening matches is one. -/
theorem exists_keyOpening (described : ForeignKeyClause.opening.Describes stretch groups rest) :
    ∃ opening : KeyOpening, stretch = opening.text := by
  -- The pieces come off from the last one to the first.
  obtain ⟨key, _, _, rfl, -, toForeignGap⟩ := described.exists_last (exists_spelling (by decide))
  obtain ⟨foreignGap, _, _, rfl, -, toForeign⟩ := toForeignGap.exists_last exists_gap
  obtain ⟨foreign, _, _, rfl, -, toNameGap⟩ := toForeign.exists_last (exists_spelling (by decide))
  obtain ⟨nameGap, _, _, rfl, -, toName⟩ := toNameGap.exists_last exists_gap
  obtain ⟨name, _, _, rfl, -, toConstraintGap⟩ := toName.exists_last exists_name
  obtain ⟨constraintGap, _, _, rfl, -, toConstraint⟩ := toConstraintGap.exists_last exists_gap
  obtain ⟨constraint, rfl, -⟩ := exists_spelling (by decide) toConstraint
  exact ⟨⟨constraint, constraintGap, name, nameGap, foreign, foreignGap, key⟩, rfl⟩

/-- The groups of a reference are the names of the table and of its column. -/
theorem exists_referenceText
    (described : ColumnClause.referencesOption.Describes stretch groups rest) :
    ∃ reference : ReferenceText, stretch = reference.text ∧
      groups = [reference.table.name.text, reference.column.name.text] := by
  -- The pieces come off from the last one to the first.
  obtain ⟨_, _, rfl, rfl, toColumn⟩ := described.exists_last_char
  obtain ⟨column, _, _, rfl, rfl, toOpening⟩ := toColumn.exists_last exists_markedName
  obtain ⟨_, _, rfl, rfl, toPadding⟩ := toOpening.exists_last_char
  obtain ⟨padding, _, _, rfl, rfl, toTable⟩ := toPadding.exists_last exists_padding
  obtain ⟨table, _, _, rfl, rfl, toGap⟩ := toTable.exists_last exists_markedName
  obtain ⟨gap, _, _, rfl, rfl, toKeyword⟩ := toGap.exists_last exists_gap
  obtain ⟨references, rfl, rfl⟩ := exists_spelling (by decide) toKeyword
  exact ⟨⟨references, gap, table, padding, column⟩, rfl, rfl⟩

/-- The text of a key is matched by the pattern, with its three names as groups. -/
theorem KeyText.describes (key : KeyText) : ForeignKeyClause.body.Describes key.text
    [key.column.name.text, key.reference.table.name.text, key.reference.column.name.text] rest := by
  obtain ⟨foreign, foreignGap, isKey, padding, column, columnGap, reference⟩ := key
  obtain ⟨references, gap, table, tablePadding, target⟩ := reference
  -- The pattern has the pieces of the reference in a row with those in front of it.
  have whole : ForeignKeyClause.body.Describes _ _ rest :=
    (((((((((((((foreign.describes.append (describes_gap foreignGap)).append
      isKey.describes).append (describes_padding padding)).append (describes_char '(')).append
      column.describes).append (describes_char ')')).append (describes_gap columnGap)).append
      references.describes).append (describes_gap gap)).append table.describes).append
      (describes_padding tablePadding)).append (describes_char '(')).append target.describes).append
      (describes_char ')')
  simpa [KeyText.text, KeyText.front, ReferenceText.text] using whole

/-- The groups of a foreign key are the names of its column, the table and the column there. -/
theorem exists_keyText (described : ForeignKeyClause.body.Describes stretch groups rest) :
    ∃ key : KeyText, stretch = key.text ∧ groups = [key.column.name.text,
      key.reference.table.name.text, key.reference.column.name.text] := by
  -- The reference comes off first, and then what stands in front of it.
  obtain ⟨_, _, rfl, rfl, toTarget⟩ := described.exists_last_char
  obtain ⟨target, _, _, rfl, rfl, toTargetOpening⟩ := toTarget.exists_last exists_markedName
  obtain ⟨_, _, rfl, rfl, toTablePadding⟩ := toTargetOpening.exists_last_char
  obtain ⟨tablePadding, _, _, rfl, rfl, toTable⟩ := toTablePadding.exists_last exists_padding
  obtain ⟨table, _, _, rfl, rfl, toGap⟩ := toTable.exists_last exists_markedName
  obtain ⟨gap, _, _, rfl, rfl, toReferences⟩ := toGap.exists_last exists_gap
  obtain ⟨references, _, _, rfl, rfl, toColumnGap⟩ :=
    toReferences.exists_last (exists_spelling (by decide))
  -- Here the reference ends, and the column of the key comes off.
  obtain ⟨columnGap, _, _, rfl, rfl, toClosing⟩ := toColumnGap.exists_last exists_gap
  obtain ⟨_, _, rfl, rfl, toColumn⟩ := toClosing.exists_last_char
  obtain ⟨column, _, _, rfl, rfl, toOpening⟩ := toColumn.exists_last exists_markedName
  obtain ⟨_, _, rfl, rfl, toPadding⟩ := toOpening.exists_last_char
  obtain ⟨padding, _, _, rfl, rfl, toKey⟩ := toPadding.exists_last exists_padding
  obtain ⟨key, _, _, rfl, rfl, toForeignGap⟩ := toKey.exists_last (exists_spelling (by decide))
  obtain ⟨foreignGap, _, _, rfl, rfl, toForeign⟩ := toForeignGap.exists_last exists_gap
  obtain ⟨foreign, rfl, rfl⟩ := exists_spelling (by decide) toForeign
  refine ⟨⟨foreign, foreignGap, key, padding, column, columnGap,
    ⟨references, gap, table, tablePadding, target⟩⟩, ?_, rfl⟩
  simp [KeyText.text, KeyText.front, ReferenceText.text]

/-- A clause is read as a foreign key by its beginning. -/
theorem opens_iff {clause : Text} : ForeignKeyClause.opens clause = true ↔
    ∃ opening : KeyOpening, opening.text <+: clause := by
  rw [ForeignKeyClause.opens, isSome_matchStart?_iff, matches_iff]
  constructor
  · intro described
    -- What the pattern describes at the beginning of the clause is such an opening.
    obtain ⟨_, _, rest, rfl, described⟩ := described
    obtain ⟨opening, rfl⟩ := exists_keyOpening described
    exact ⟨opening, List.prefix_append _ _⟩
  · intro begins
    obtain ⟨opening, rest, rfl⟩ := begins
    exact ⟨_, _, rest, rfl, opening.describes⟩

/-- A clause gives a foreign key when one stands anywhere in it. -/
theorem isSome_foreignKey?_iff {clause : Text} :
    (ForeignKeyClause.foreignKey? clause).isSome = true ↔
      ∃ key : KeyText, key.text <:+: clause := by
  rw [ForeignKeyClause.foreignKey?, Option.isSome_map, isSome_search?_iff]
  -- A search goes on from place to place, so any text may stand in front of the key.
  constructor
  · intro described
    obtain ⟨_, _, front, rest, rfl, described⟩ := described
    obtain ⟨key, rfl, -⟩ := exists_keyText described
    exact ⟨key, front, rest, by simp⟩
  · intro inside
    obtain ⟨key, front, rest, rfl⟩ := inside
    exact ⟨_, _, front, rest, by simp, key.describes⟩

end Grammar

end Ddl
