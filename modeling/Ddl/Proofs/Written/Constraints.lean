import Ddl.Proofs.Written.Definition

/-! Constraints on a table as a whole stand among its columns, and some of them are taken for
columns themselves. -/

namespace Ddl

namespace Written

open Pattern

/-- The columns of a constraint: names with or without quotes, commas and white space. -/
structure ColumnList where
  text : Text
  listed : ∀ char ∈ text,
    isWord char = true ∨ CharClass.isQuote char = true ∨ isSpace char = true ∨ char = ','

/-- The columns as they are written between parentheses. -/
def ColumnList.enclosed (columns : ColumnList) : Text :=
  '(' :: (columns.text ++ [')'])

/-- The words in front of the columns of a constraint. -/
inductive ListHead where
  | primaryKey (primary : Keyword "PRIMARY") (gap : Gap) (key : Keyword "KEY")
  | unique (unique : Keyword "UNIQUE")
  | namedPrimaryKey (constraint : Keyword "CONSTRAINT") (nameGap : Gap) (name : Name)
    (primaryGap : Gap) (primary : Keyword "PRIMARY") (gap : Gap) (key : Keyword "KEY")

/-- A foreign key without a name of its own. -/
structure UnnamedKey where
  foreign : Keyword "FOREIGN"
  keyGap : Gap
  key : Keyword "KEY"
  padding : Padding
  column : QuotedName
  referencesGap : Gap
  references : Keyword "REFERENCES"
  gap : Gap
  reference : Reference

/-- A constraint on a table as a whole. -/
inductive TableConstraint where
  | list (head : ListHead) (padding : Padding) (columns : ColumnList)
  | foreignKey (key : UnnamedKey)
  | namedForeignKey (clause : KeyClause)

/-- What stands between two commas of a table. -/
inductive BodyItem where
  | column (clause : ColumnClause)
  | constraint (given : TableConstraint)

/-- An item with the white space around it. -/
structure PlacedItem where
  before : Padding
  item : BodyItem
  after : Padding

/-- The tokens of the words. -/
def ListHead.pieces : ListHead → List Piece
  | primaryKey primary gap key => [⟨[], primary.text⟩, ⟨gap.text, key.text⟩]
  | unique keyword => [⟨[], keyword.text⟩]
  | namedPrimaryKey constraint nameGap name primaryGap primary gap key =>
    [⟨[], constraint.text⟩, ⟨nameGap.text, name.text⟩, ⟨primaryGap.text, primary.text⟩,
      ⟨gap.text, key.text⟩]

/-- The tokens of the foreign key. -/
def UnnamedKey.pieces (key : UnnamedKey) : List Piece :=
  [⟨[], key.foreign.text⟩, ⟨key.keyGap.text, key.key.text⟩,
    ⟨key.padding.text, key.column.enclosed⟩, ⟨key.referencesGap.text, key.references.text⟩] ++
    key.reference.pieces key.gap.text

/-- The constraint as it is written. -/
def TableConstraint.text : TableConstraint → Text
  | list head padding columns => spell head.pieces ++ (padding.text ++ columns.enclosed)
  | foreignKey key => spell key.pieces
  | namedForeignKey clause => spell (clause.pieces [])

/-- The item as it is written. -/
def BodyItem.text : BodyItem → Text
  | column clause => spell (clause.pieces [])
  | constraint given => given.text

/-- The item with its white space. -/
def PlacedItem.text (placed : PlacedItem) : Text :=
  placed.before.text ++ (placed.item.text ++ placed.after.text)

/-- The first word, where a column with this name is read instead. -/
def ListHead.takenFor? : ListHead → Option Text
  | primaryKey primary _ _ => some primary.text
  | unique _ => none
  | namedPrimaryKey constraint _ _ _ _ _ _ => some constraint.text

/-- The name of the column that is read where the constraint stands. -/
def TableConstraint.takenFor? : TableConstraint → Option Text
  -- Only a foreign key with a name of its own is known as a constraint.
  | list head _ _ => head.takenFor?
  | foreignKey key => some key.foreign.text
  | namedForeignKey _ => none

/-- The name of the column that is read where the item stands. -/
def BodyItem.readName? : BodyItem → Option Text
  | column clause => some clause.name.name.text
  | constraint given => given.takenFor?

/-- The column that is declared by the item, as its clause is read by itself. -/
def BodyItem.column? : BodyItem → Option Column
  | column clause => Ddl.ColumnClause.column? clause.normal
  | constraint _ => none

variable {rest tail : Text}

/-- A match at the beginning of a text is accepted when every match is. -/
theorem exists_firstMatch? {pattern : Pattern} {text : Text} (found : pattern.Matches text)
    (keep : Match → Match) :
    ∃ way, pattern.firstMatch? text (fun way => some (keep way)) = some (keep way) := by
  -- The preferred way is the first one, and it is accepted.
  obtain ⟨way, others, ways⟩ := List.exists_cons_of_ne_nil found
  exact ⟨way, by rw [firstMatch?_eq_findSome?, ways]; rfl⟩

/-- Two names at the beginning of a clause are read as a column and its type. -/
theorem exists_column?_names (first second : Name) (rest : Text) : ∃ column,
    Ddl.ColumnClause.column? (first.text ++ ' ' :: (second.text ++ rest)) = some column ∧
      column.name = first.text := by
  -- Whatever follows, the second name alone is a type, and more may be taken for its arguments.
  have typed : (group typePattern).Matches (second.text ++ rest) := by
    have described : typePattern.Describes (second.text ++ []) [] rest :=
      (Grammar.describes_name second).append (describes_optional_iff.mpr (.inr ⟨rfl, rfl⟩))
    rw [List.append_nil] at described
    exact matches_iff.mpr ⟨_, _, rest, rfl, described.group⟩
  obtain ⟨stop, named⟩ := firstMatch?_written_name ⟨first, .none⟩ (spaces ++ group typePattern)
    (' ' :: (second.text ++ rest)) some (spaces_avoids_word _) (spaces_avoids_quote _)
    (by decide : isWord ' ' = false) rfl
  obtain ⟨way, found⟩ := exists_firstMatch? typed fun after =>
    ⟨⟨first.text ++ stop, stop⟩ :: after.groups, after.rest⟩
  rw [QuotedName.text_bare, ← matchStart?_header,
    firstMatch?_spaces_single (second.isPlain.token.toSolid.head rest), found] at named
  obtain ⟨column, given, name, -, -⟩ := exists_column?_of_header named
  exact ⟨column, given, by rw [name]; simp [Match.groupText]⟩

/-- A name in front of a parenthesis is not read as a column. -/
theorem column?_name_opening (name : Name) (space rest : Text) :
    Ddl.ColumnClause.column? (name.text ++ (oneSpace space ++ '(' :: rest)) = none := by
  obtain ⟨stop, named⟩ := firstMatch?_written_name ⟨name, .none⟩ (spaces ++ group typePattern)
    (oneSpace space ++ '(' :: rest) some (spaces_avoids_word _) (spaces_avoids_quote _)
    (outside_opening space (by decide) (by decide)) (outside_opening space rfl rfl)
  have none : Ddl.ColumnClause.header.matchStart? (name.text ++ (oneSpace space ++ '(' :: rest)) =
      none := by
    have opening : isWord '(' = false ∧ isSpace '(' = false := by decide
    rw [matchStart?_header, ← QuotedName.text_bare, named, oneSpace]
    split
    · -- White space would have to stand behind the name.
      refine firstMatch?_eq_none (by simp [spaces, mayBeEmpty]) ?_
      simp [mayMatch_cons, spaces, mayBegin, mayBeEmpty, CharClass.holds, opening]
    · -- Behind the white space a type would have to begin.
      rw [List.singleton_append, firstMatch?_spaces_single (by simp [opening])]
      refine firstMatch?_eq_none rfl ?_
      simp [mayMatch_cons, typePattern, mayBegin, mayBeEmpty, CharClass.holds, opening]
  rw [Ddl.ColumnClause.column?, none]
  rfl

/-- A clause that begins with another keyword is not read as a foreign key. -/
theorem opens_keyword {name : String} (keyword : Keyword name)
    (other : ¬"CONSTRAINT".toList <+: name.toList ++ rest.folded) :
    ForeignKeyClause.opens (keyword.text ++ rest) = false := by
  -- The opening begins with a keyword that the clause does not begin with.
  have opening : ForeignKeyClause.opening.matchStart? (keyword.text ++ rest) =
      (Pattern.keyword "CONSTRAINT" ++ (spaces ++ (longest .word ++ (spaces ++
        (Pattern.keyword "FOREIGN" ++ (spaces ++ Pattern.keyword "KEY")))))).matchStart?
          (keyword.text ++ rest) := by
    simp only [matchStart?, ForeignKeyClause.opening, firstMatch?_assoc]
  rw [ForeignKeyClause.opens, opening, matchStart?, firstMatch?_keyword, Text.folded_append,
    keyword.folded, if_neg other]
  rfl

/-- The words in normal form. -/
def ListHead.normal : ListHead → Text
  | primaryKey primary _ key => primary.text ++ Text.spaced [key.text]
  | unique keyword => keyword.text
  | namedPrimaryKey constraint _ name _ primary _ key =>
    constraint.text ++ Text.spaced [name.text, primary.text, key.text]

/-- The head of a list is spelled by its words with single spaces. -/
theorem ListHead.spell_single (head : ListHead) :
    spell (head.pieces.map Piece.single) = head.normal := by
  cases head <;> simp [pieces, normal, Piece.single]

/-- All pieces of the head stand inside of a clause. -/
theorem ListHead.inClause (head : ListHead) : ∀ piece ∈ head.pieces, piece.InClause := by
  -- Each of the three heads is made of keywords, and one of them has a name.
  have none : Text.isBlank [] = true := rfl
  cases head with
  | primaryKey primary gap key =>
    simpa [pieces] using ⟨primary.inClause none, key.inClause gap.blank⟩
  | unique keyword => simpa [pieces] using keyword.inClause none
  | namedPrimaryKey constraint nameGap name primaryGap primary gap key =>
    simpa [pieces] using ⟨constraint.inClause none, name.inClause nameGap.blank,
      primary.inClause primaryGap.blank, key.inClause gap.blank⟩

/-- What is read of the words with a parenthesis behind them. -/
theorem ListHead.read (head : ListHead) (space rest : Text) :
    ForeignKeyClause.opens (head.normal ++ (oneSpace space ++ '(' :: rest)) = false ∧
      (Ddl.ColumnClause.column? (head.normal ++ (oneSpace space ++ '(' :: rest))).map Column.name =
        head.takenFor? := by
  generalize ending : oneSpace space ++ '(' :: rest = behind
  cases head with
  | primaryKey primary gap key =>
    -- The two keywords are taken for a name and a type.
    obtain ⟨column, read, name⟩ := exists_column?_names primary.toName key.toName behind
    have written : (primaryKey primary gap key).normal ++ behind =
        primary.text ++ ' ' :: (key.text ++ behind) := by
      simp [normal]
    rw [written]
    refine ⟨opens_keyword primary (by simp +decide), ?_⟩
    rw [← primary.text_toName, ← key.text_toName, read]
    exact congrArg some name
  | unique keyword =>
    -- A single keyword has no second word behind it that could be a type.
    refine ⟨opens_keyword keyword (by simp +decide), ?_⟩
    rw [normal, ← keyword.text_toName, ← ending, column?_name_opening]
    rfl
  | namedPrimaryKey constraint nameGap name primaryGap primary gap key =>
    obtain ⟨column, read, isName⟩ := exists_column?_names constraint.toName name
      (' ' :: (primary.text ++ ' ' :: (key.text ++ behind)))
    have written : (namedPrimaryKey constraint nameGap name primaryGap primary gap key).normal ++
        behind =
          constraint.text ++ ' ' :: (name.text ++ ' ' :: (primary.text ++ ' ' :: (key.text ++
            behind))) := by
      simp [normal]
    -- Behind the name of the constraint stands no foreign key.
    have other : ¬"FOREIGN".toList <+: (primary.text ++ ' ' :: (key.text ++ behind)).folded := by
      rw [Text.folded_append, primary.folded]
      simp +decide
    rw [written]
    refine ⟨opens_word_name constraint.solid name (primary.solid.head _) other, ?_⟩
    rw [← constraint.text_toName, read]
    exact congrArg some isName

/-- The head begins with a visible character. -/
theorem ListHead.exists_head (head : ListHead) :
    ∃ char ∈ head.normal.head?, isSpace char = false := by
  -- It begins with a keyword.
  have begins {word : Text} (solid : Solid word) (rest : Text) :
      ∃ char ∈ (word ++ rest).head?, isSpace char = false := by
    obtain ⟨char, first, solid⟩ := solid.tight.head
    exact ⟨char, by simp [List.head?_append, Option.mem_def.mp first], solid⟩
  cases head with
  | primaryKey primary gap key => exact begins primary.solid _
  | unique keyword => exact keyword.solid.tight.head
  | namedPrimaryKey constraint nameGap name primaryGap primary gap key =>
    exact begins constraint.solid _

/-- A list of columns has neither parentheses nor parts of comments. -/
theorem ColumnList.not_mem (columns : ColumnList) :
    ∀ char ∈ ['-', '/', '*', '(', ')'], char ∉ columns.text := by
  -- The characters of the list are words, quotes, commas and white space.
  have none : ∀ char ∈ ['-', '/', '*', '(', ')'], isWord char = false ∧
      CharClass.isQuote char = false ∧ isSpace char = false ∧ char ≠ ',' := by
    simp only [List.forall_mem_cons]
    exact ⟨by decide, by decide, by decide, by decide, by decide, by simp⟩
  intro char among member
  obtain ⟨word, quote, space, comma⟩ := none char among
  simpa [word, quote, space, comma] using columns.listed char member

/-- The head with its list of columns is a clause. -/
theorem ListHead.isClause (head : ListHead) (padding : Padding) (columns : ColumnList) :
    IsClause (spell head.pieces ++ (padding.text ++ columns.enclosed)) := by
  have front := IsClause.of_spell head.inClause
  have none := columns.not_mem
  have opening : Piece.Sound ⟨padding.text, ['(']⟩ :=
    IsPlain.sound ⟨by simp, List.forall_mem_singleton.mpr rfl⟩ padding.blank
  have apart : BeginsApart (padding.text ++ columns.enclosed) := opening.beginsApart _
  have stays : StaysApart columns.enclosed := by
    simp [StaysApart, ColumnList.enclosed, none '-' (by simp), none '/' (by simp)]
  have space := StaysApart.of_isBlank padding.blank
  refine ⟨front.toNoComment.append (space.noComment.append stays.noComment (.inr space))
    (.inl apart), ?_⟩
  -- The commas between the columns stand inside of parentheses.
  have inside : IsClause columns.enclosed := ⟨stays.noComment,
    CommaList.depthAfter?_parentheses ⟨none '(' (by simp), none ')' (by simp)⟩⟩
  have padded := (inside.padded padding.blank (rfl : Text.isBlank [] = true)).level
  rw [List.append_nil] at padded
  rw [CommaList.depthAfter?_append, front.level, Option.bind_some, padded]

/-- The normal form of such a clause has single spaces. -/
theorem ListHead.normalize_text (head : ListHead) (padding : Padding) (columns : ColumnList) :
    normalize (spell head.pieces ++ (padding.text ++ columns.enclosed)) =
      head.normal ++ (oneSpace padding.text ++ '(' :: (columns.text.collapse ++ [')'])) := by
  -- The head, the space and the list are collapsed one after another.
  have opening : Solid ['('] := .of_any (by simp) (by decide)
  have closing : Text.collapseFrom false (columns.text ++ [')']) =
      columns.text.collapse ++ [')'] := Text.collapseFrom_append_cons (by decide) false _ []
  have ending : Text.collapseFrom false (padding.text ++ columns.enclosed) =
      oneSpace padding.text ++ '(' :: (columns.text.collapse ++ [')']) := by
    rw [← closing]
    exact collapseFrom_oneSpace padding.blank opening _
  -- The clause begins with a keyword and ends with a parenthesis, so that nothing is trimmed.
  have tight : (head.normal ++ (oneSpace padding.text ++
      '(' :: (columns.text.collapse ++ [')']))).Tight := by
    obtain ⟨char, first, solid⟩ := head.exists_head
    exact ⟨⟨char, by simp [List.head?_append, Option.mem_def.mp first], solid⟩,
      ⟨')', by simp [List.getLast?_cons], by decide⟩⟩
  rw [(head.isClause padding columns).normalize_eq, Text.collapse,
    collapseFrom_spell_append fun piece member => (head.inClause piece member).toSound, ending,
    head.spell_single, Text.trim_of_tight tight]

/-- All pieces of a key without a name stand inside of a clause. -/
theorem UnnamedKey.inClause (key : UnnamedKey) : ∀ piece ∈ key.pieces, piece.InClause := by
  -- The pieces are looked at in the order in which they are written.
  simp only [pieces, List.forall_mem_append, List.forall_mem_cons]
  exact ⟨⟨key.foreign.inClause rfl, key.key.inClause key.keyGap.blank,
    key.column.enclosed_inClause key.padding.blank,
    key.references.inClause key.referencesGap.blank, by simp⟩,
    key.reference.inClause key.gap.blank⟩

/-- In normal form the two keywords stand at the beginning with a space between them. -/
theorem UnnamedKey.exists_normalize (key : UnnamedKey) : ∃ rest, normalize (spell key.pieces) =
    key.foreign.text ++ ' ' :: (key.key.text ++ rest) := by
  -- The first keyword has nothing in front of it, and the others follow with single spaces.
  have sound : ∀ piece ∈ key.pieces.tail, piece.Sound := fun piece member =>
    (key.inClause piece (List.mem_of_mem_tail member)).toSound
  have split : spell key.pieces = key.foreign.text ++ spell key.pieces.tail := by
    simp [pieces]
  rw [split, normalize_spell key.foreign.isPlain.token sound]
  exact ⟨_, by simp [pieces, Piece.single]; rfl⟩

/-- A constraint is a clause. -/
theorem TableConstraint.isClause (constraint : TableConstraint) : IsClause constraint.text := by
  -- Each kind of constraint is one.
  cases constraint with
  | list head padding columns => exact head.isClause padding columns
  | foreignKey key => exact .of_spell key.inClause
  | namedForeignKey clause => exact .of_spell (clause.inClause rfl)

/-- No constraint is faulty, and only some give no column. -/
theorem TableConstraint.read (constraint : TableConstraint) :
    ¬TableBody.IsFaulty (normalize constraint.text) ∧
      (TableBody.columnOf? (normalize constraint.text)).map Column.name =
        constraint.takenFor? := by
  -- Where no foreign key opens, the clause is read as a column or skipped.
  have skipped {clause : Text} {name? : Option Text}
      (opens : ForeignKeyClause.opens clause = false)
      (column : (Ddl.ColumnClause.column? clause).map Column.name = name?) :
      ¬TableBody.IsFaulty clause ∧ (TableBody.columnOf? clause).map Column.name = name? := by
    refine ⟨fun faulty => absurd faulty.1 (by simp [opens]), ?_⟩
    rw [TableBody.columnOf?, if_neg (by simp [opens]), column]
  -- Only a named foreign key opens one.
  cases constraint with
  | list head padding columns =>
    obtain ⟨opens, column⟩ := head.read padding.text (columns.text.collapse ++ [')'])
    rw [← head.normalize_text padding columns] at opens column
    exact skipped opens column
  | foreignKey key =>
    obtain ⟨rest, normal⟩ := key.exists_normalize
    obtain ⟨column, read, name⟩ := exists_column?_names key.foreign.toName key.key.toName rest
    rw [TableConstraint.text, normal]
    refine skipped (opens_keyword key.foreign (by simp +decide)) ?_
    rw [← key.foreign.text_toName, ← key.key.text_toName, read]
    exact congrArg some name
  | namedForeignKey clause =>
    have normal : normalize (spell (clause.pieces [])) = clause.normal :=
      normalize_spell_pieces (.key clause) rfl
    rw [TableConstraint.text, normal]
    refine ⟨fun faulty => ?_, ?_⟩
    · cases (foreignKey?_normal clause).symm.trans faulty.2
    · rw [TableBody.columnOf?, if_pos (opens_key_normal clause)]
      rfl

/-- An item is a clause. -/
theorem BodyItem.isClause (item : BodyItem) : IsClause item.text := by
  cases item with
  | column clause => exact .of_spell (clause.inClause rfl)
  | constraint given => exact given.isClause

/-- A column clause gives its column, with the name and the type that are written. -/
theorem ColumnClause.exists_column? (clause : ColumnClause) : ∃ column,
    Ddl.ColumnClause.column? clause.normal = some column ∧
      column.name = clause.name.name.text ∧ column.type = clause.type.text ∧
        (clause.Unambiguous → column = clause.column) := by
  -- The header gives name and type, whatever the options are.
  obtain ⟨found, matched, isName, isType⟩ :=
    matchStart?_written_header clause.name clause.type (optionWords clause.options)
  rw [← ColumnClause.normal] at matched
  obtain ⟨column, given, name, type, -⟩ := exists_column?_of_header matched
  refine ⟨column, given, name.trans isName, type.trans isType, fun clear => ?_⟩
  exact Option.some.inj (given.symm.trans (column?_normal clause clear))

/-- No item is faulty, and the items are read by their names. -/
theorem BodyItem.read (item : BodyItem) : ¬TableBody.IsFaulty (normalize item.text) ∧
    (TableBody.columnOf? (normalize item.text)).map Column.name = item.readName? := by
  -- A constraint is read as shown before, and a column by its header.
  cases item with
  | constraint given => exact given.read
  | column clause =>
    have normal : normalize (spell (clause.pieces [])) = clause.normal :=
      normalize_spell_pieces (.column clause) rfl
    obtain ⟨column, given, name, -⟩ := clause.exists_column?
    have opens := opens_column_normal clause
    rw [BodyItem.text, normal]
    refine ⟨fun faulty => absurd faulty.1 (by simp [opens]), ?_⟩
    rw [TableBody.columnOf?, if_neg (by simp [opens]), given]
    exact congrArg some name

/-- What is read of an item is what it declares, unless a constraint is taken for a column. -/
theorem BodyItem.read_eq_column?_iff (item : BodyItem) :
    (item.column? = none ∨ item.column? = TableBody.columnOf? (normalize item.text)) ∧
      (TableBody.columnOf? (normalize item.text) = item.column? ↔
        ∀ given, item = .constraint given → given.takenFor? = none) := by
  cases item with
  | constraint given =>
    -- Nothing is declared, so nothing may be read.
    have read := given.read.2
    refine ⟨.inl rfl, ?_⟩
    simp only [constraint.injEq, forall_eq', ← read, Option.map_eq_none_iff]
    rfl
  | column clause =>
    have normal : normalize (spell (clause.pieces [])) = clause.normal :=
      normalize_spell_pieces (.column clause) rfl
    have same : (column clause).column? = TableBody.columnOf? (normalize (column clause).text) := by
      rw [BodyItem.text, normal, TableBody.columnOf?, if_neg (by simp [opens_column_normal])]
      rfl
    exact ⟨.inr same, by simp [same]⟩

/-- Two selections, of which one only leaves items out, agree when it leaves out none. -/
theorem filterMap_eq_filterMap_iff {Item Value : Type} {first second : Item → Option Value}
    {items : List Item} (part : ∀ item ∈ items, first item = none ∨ first item = second item) :
    items.filterMap second = items.filterMap first ↔
      ∀ item ∈ items, second item = first item := by
  induction items with
  | nil => simp
  | cons item later ih =>
    rw [List.forall_mem_cons] at part ⊢
    rw [← ih part.2]
    rcases part.1 with left | same
    · -- The item is left out by the first selection.
      rw [List.filterMap_cons_none left, left]
      cases read : second item with
      | none => simp [List.filterMap_cons_none read]
      | some value =>
        rw [List.filterMap_cons_some read]
        -- The second selection would have one item too many.
        have fewer : (later.filterMap first).length ≤ (later.filterMap second).length := by
          rw [List.length_filterMap_eq_countP, List.length_filterMap_eq_countP]
          refine List.countP_mono_left fun other member => ?_
          rcases part.2 other member with left | same <;> simp [*]
        refine iff_of_false (fun equal => ?_) (by simp)
        have lengths := congrArg List.length equal
        rw [List.length_cons] at lengths
        omega
    · -- Both selections treat the item alike.
      cases read : second item <;> simp [same, read]

/-- An item is not empty. -/
theorem BodyItem.text_ne_nil (item : BodyItem) : item.text ≠ [] := by
  -- Each kind of item begins with a word.
  cases item with
  | column clause => simp [text, ColumnClause.pieces, clause.name.solid.present]
  | constraint given =>
    cases given with
    | list head padding columns => simp [text, TableConstraint.text, ColumnList.enclosed]
    | foreignKey key =>
      simp [text, TableConstraint.text, UnnamedKey.pieces, key.foreign.solid.present]
    | namedForeignKey clause =>
      simp [text, TableConstraint.text, KeyClause.pieces, clause.constraint.solid.present]

/-- White space around an item is not part of its normal form. -/
theorem PlacedItem.normalize_text (placed : PlacedItem) :
    normalize placed.text = normalize placed.item.text :=
  placed.item.isClause.normalize_padded placed.before.blank placed.after.blank

/-- An item with white space around it is a clause. -/
theorem PlacedItem.isClause (placed : PlacedItem) : IsClause placed.text :=
  placed.item.isClause.padded placed.before.blank placed.after.blank

/-- An item with white space around it is not empty. -/
theorem PlacedItem.text_ne_nil (placed : PlacedItem) : placed.text ≠ [] := by
  simp [text, placed.item.text_ne_nil]

/-- The items of a table with constraints are read in order. Its columns are just those that are
declared if and only if no constraint is one that is taken for a column. -/
theorem ofStatement_constraints (header : Grammar.Header) {items : List PlacedItem} {tail : Text}
    (present : items ≠ []) (trailing : IsTrailing tail) : ∃ table,
    Table.ofStatement (definition header (items.map PlacedItem.text) tail) = .ok table ∧
      table.name = header.name.name.text ∧
      table.columns.map Column.name = items.filterMap (fun placed => placed.item.readName?) ∧
      (table.columns = items.filterMap (fun placed => placed.item.column?) ↔
        ∀ placed ∈ items, ∀ given, placed.item = .constraint given → given.takenFor? = none) ∧
      ∀ placed ∈ items, ∀ clause, placed.item = .column clause → ∃ column,
        placed.item.column? = some column ∧ column.name = clause.name.name.text ∧
          column.type = clause.type.text ∧ (clause.Unambiguous → column = clause.column) := by
  -- The items are clauses, and each of them is read in its normal form.
  have isClause : ∀ clause ∈ items.map PlacedItem.text, IsClause clause :=
    List.forall_mem_map.mpr fun placed _ => placed.isClause
  have normals : (items.map PlacedItem.text).map normalize =
      items.map fun placed => normalize placed.item.text := by
    rw [List.map_map]
    exact List.map_congr_left fun placed _ => placed.normalize_text
  -- No item can make the definition faulty, so all of them are read.
  have sound : ∀ clause ∈ (items.map PlacedItem.text).map normalize,
      ¬TableBody.IsFaulty clause := by
    rw [normals]
    exact List.forall_mem_map.mpr fun placed _ => placed.item.read.1
  have filled : Text.join [','] (items.map PlacedItem.text) ≠ [] := by
    obtain ⟨placed, member⟩ := List.exists_mem_of_ne_nil items present
    exact join_ne_nil (List.mem_map_of_mem member) placed.text_ne_nil
  have read := ofStatement_definition header trailing isClause filled
  rw [TableBody.ofClauses_of_sound sound, normals, List.filterMap_map] at read
  refine ⟨_, read, rfl, ?_, ?_, ?_⟩
  · show (items.filterMap _).map Column.name = _
    rw [List.map_filterMap]
    exact congrArg (items.filterMap ·) (funext fun placed => placed.item.read.2)
  · rw [filterMap_eq_filterMap_iff fun placed _ => placed.item.read_eq_column?_iff.1]
    exact forall₂_congr fun placed _ => placed.item.read_eq_column?_iff.2
  · intro placed _ clause same
    rw [same]
    exact clause.exists_column?

/-- The list of one column. -/
def singleColumn (name : Name) : ColumnList where
  text := name.text
  listed := fun char member => .inl (List.all_eq_true.mp name.word char member)

/-- A constraint without a space in front of its parenthesis is not taken for a column. -/
theorem ofStatement_constraints_guarded :
    IsTrailing ";".toList ∧ ∃ items : List PlacedItem, items ≠ [] ∧
      items.map PlacedItem.text = ["unique(id)\n".toList, "id INT".toList] ∧
      ∃ table, Table.ofStatement "CREATE TABLE t (unique(id)\n,id INT);".toList = .ok table ∧
        table.columns = items.filterMap fun placed => placed.item.column? := by
  have trailing : IsTrailing ";".toList := ⟨by decide, by decide, by decide, by decide⟩
  refine ⟨trailing,
    [⟨.of "", .constraint (.list (.unique (.of "unique")) (.of "") (singleColumn (.of "id"))),
      .of "\n"⟩,
    ⟨.of "", .column ⟨⟨.of "id", .none⟩, .of " ", ⟨.of "INT", none⟩, [], .nil⟩, .of ""⟩],
    List.cons_ne_nil _ _, ?_, ?_⟩
  · decide +kernel
  · obtain ⟨table, read, -, -, declared, -⟩ := ofStatement_constraints
      (headerOf (.of "CREATE") (.of "TABLE") (.of " ") (.of "t")) (List.cons_ne_nil _ _) trailing
    refine ⟨table, Eq.trans ?_ read, declared.mpr ?_⟩
    · decide +kernel
    · -- The only constraint is one that is skipped.
      simp only [List.forall_mem_cons]
      refine ⟨?_, ?_, by simp⟩
      · rintro given ⟨⟩
        rfl
      · rintro given ⟨⟩

/-- A primary key of the whole table is read as a column that is not declared. -/
theorem ofStatement_constraints_primaryKey : ∃ items : List PlacedItem,
    definition (headerOf (.of "CREATE") (.of "TABLE") (.of " ") (.of "t"))
        (items.map PlacedItem.text) [] = "CREATE TABLE t (id INT, PRIMARY KEY (id))".toList ∧
      items.filterMap (fun placed => placed.item.column?) =
        [⟨"id".toList, "INT".toList, true, false, false, none, none⟩] ∧
      Table.ofStatement "CREATE TABLE t (id INT, PRIMARY KEY (id))".toList = .ok ⟨"t".toList,
        [⟨"id".toList, "INT".toList, true, false, false, none, none⟩,
          ⟨"PRIMARY".toList, "KEY".toList, true, true, false, none, none⟩], []⟩ := by
  -- The constraint is the second item, and the first one is the only column.
  refine ⟨[
    ⟨.of "", .column ⟨⟨.of "id", .none⟩, .of " ", ⟨.of "INT", none⟩, [], .nil⟩, .of ""⟩,
    ⟨.of " ", .constraint (.list (.primaryKey (.of "PRIMARY") (.of " ") (.of "KEY")) (.of " ")
      (singleColumn (.of "id"))), .of ""⟩], ?_, ?_, ?_⟩
  · decide +kernel
  · decide +kernel
  · decide +kernel

end Written

end Ddl
