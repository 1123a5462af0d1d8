import Ddl.Proofs.Written.Options

/-! A column clause is read as it is meant when none of its names is taken for an option. -/

namespace Ddl

namespace Written

open Pattern

variable {rest : Text} {accept : Match → Option Match}

/-- The words of a clause that are not keywords. -/
def ColumnClause.ownWords (clause : ColumnClause) : List Text :=
  clause.name.text :: clause.type.text ::
    clause.options.flatMap fun option => option.2.ownWords

/-- No keyword of an option is found where it is not meant. -/
structure ColumnClause.Unambiguous (clause : ColumnClause) : Prop where
  notNull : OptionKind.notNull ∈ kinds clause.options ∨
    ¬("NOT".toList <:+ clause.name.text.folded ∧ "NULL".toList <+: clause.type.text.folded)
  primaryKey : OptionKind.primaryKey ∈ kinds clause.options ∨
    ¬("PRIMARY".toList <:+ clause.name.text.folded ∧ "KEY".toList <+: clause.type.text.folded)
  unique : OptionKind.unique ∈ kinds clause.options ∨
    ∀ word ∈ clause.ownWords, ¬"UNIQUE".toList <:+: word.folded
  /-- The type is not taken for a default value. -/
  defaultName : ¬"DEFAULT".toList <:+ clause.name.text.folded
  /-- The first option is not taken for a default value. -/
  defaultType : "DEFAULT".toList <:+ clause.type.text.folded → clause.options = []
  /-- A column in parentheses is not taken for a default value. -/
  defaultTable : ∀ option ∈ clause.options.takeWhile fun option => option.2.kind ≠ .default,
    ∀ reference ∈ option.2.reference?, "DEFAULT".toList <:+ reference.table.text.folded →
      reference.padding.text = []
  /-- A type with arguments is not taken for what a column refers to. -/
  referencesName : "REFERENCES".toList <:+ clause.name.text.folded →
    ¬BeginsWithEnclosed clause.type.suffix
  /-- A default value in parentheses is not taken for a column that another one refers to. -/
  referencesType : "REFERENCES".toList <:+ clause.type.text.folded →
    ∀ option ∈ clause.options.head?, ∀ value ∈ option.2.value?, ¬BeginsWithEnclosed value.text

/-- A column is unambiguous when none of its words contains a keyword with which options begin. -/
theorem ColumnClause.Unambiguous.of_ownWords {clause : ColumnClause}
    (clean : ∀ word ∈ clause.ownWords, ∀ keyword ∈ firstKeywords,
      ¬keyword.toList <:+: word.folded) : clause.Unambiguous := by
  -- What ends with a keyword contains it.
  have name : ∀ keyword ∈ firstKeywords, ¬keyword.toList <:+ clause.name.text.folded :=
    fun keyword member ends => clean _ (by simp [ColumnClause.ownWords]) keyword member ends.isInfix
  have type : ∀ keyword ∈ firstKeywords, ¬keyword.toList <:+ clause.type.text.folded :=
    fun keyword member ends => clean _ (by simp [ColumnClause.ownWords]) keyword member ends.isInfix
  simp only [firstKeywords, List.forall_mem_cons] at name type
  exact {
    notNull := .inr fun both => name.1 both.1
    primaryKey := .inr fun both => name.2.1 both.1
    unique := .inr fun word member => clean word member "UNIQUE" (by simp [firstKeywords])
    defaultName := name.2.2.2.1
    defaultType := fun ends => absurd ends type.2.2.2.1
    -- The tables in question belong to options that stand in the clause.
    defaultTable := by
      intro option member reference isReference ends
      have isOption := (List.takeWhile_prefix _).subset member
      refine absurd ends.isInfix (clean _ ?_ "DEFAULT" (by simp [firstKeywords]))
      simp only [ColumnClause.ownWords, List.mem_cons, List.mem_flatMap]
      refine .inr (.inr ⟨option, isOption, ?_⟩)
      simp [ColumnOption.ownWords, Option.mem_def.mp isReference]
    referencesName := fun ends => absurd ends name.2.2.2.2.1
    referencesType := fun ends => absurd ends type.2.2.2.2.1 }

/-- A type with or without arguments. -/
def typePattern : Pattern :=
  longest .word ++ optional (char '(' ++ longest (.except ')') ++ char ')')

/-- The arguments of a type are read where they are written, if there are any. -/
theorem firstMatch?_written_suffix (type : TypeName) {found : Match}
    (noOpening : rest.head? ≠ some '(') (accepted : accept ⟨[], rest⟩ = some found) :
    (optional (char '(' ++ longest (.except ')') ++ char ')')).firstMatch? (type.suffix ++ rest)
      accept = some found := by
  rw [Pattern.optional, firstMatch?, ← firstMatch?_append_empty, firstMatch?_assoc,
    firstMatch?_assoc]
  -- The type has arguments in parentheses or none.
  obtain ⟨name, _ | arguments⟩ := type
  · -- Without arguments only the empty stretch is left.
    rw [TypeName.suffix, Option.elim_none, List.nil_append, firstMatch?_char, if_neg noOpening]
    exact accepted
  · have written : TypeName.suffix ⟨name, some arguments⟩ ++ rest =
        '(' :: (arguments.text ++ ')' :: rest) := by simp [TypeName.suffix]
    -- The arguments go on to the first parenthesis that closes, which is the one behind them.
    have inside : ∀ char ∈ arguments.text, CharClass.holds (.except ')') char = true := by
      intro char member
      have other : char ≠ ')' := fun same => arguments.flat.2 (same ▸ member)
      simpa [CharClass.holds] using other
    have closing : (char ')' ++ empty).Avoids (.except ')') := avoids_mark rfl
    have started : (arguments.text ++ ')' :: rest).head?.any (CharClass.holds (.except ')')) :=
      by
      obtain ⟨first, later, written⟩ := List.exists_cons_of_ne_nil arguments.token.present
      simpa [written] using inside first (by simp [written])
    have ended : (')' :: rest).dropWhile (CharClass.holds (.except ')')) = ')' :: rest := rfl
    rw [written, firstMatch?_char_cons, firstMatch?_longest closing, if_pos started,
      List.dropWhile_append_of_pos inside, ended, firstMatch?_char_cons, firstMatch?, accepted]

/-- Behind the name of a type stand its arguments. -/
theorem TypeName.dropWhile (type : TypeName) (boundary : Outside .word rest) :
    (type.text ++ rest).dropWhile isWord = type.suffix ++ rest := by
  -- The parenthesis before the arguments ends the name, as the boundary does when there is none.
  have nameBoundary : Outside .word (type.suffix ++ rest) := by
    obtain ⟨name, _ | arguments⟩ := type
    · exact boundary
    · exact (by decide : isWord '(' = false)
  rw [TypeName.text, List.append_assoc, type.name.dropWhile nameBoundary]

/-- A type begins with a word character. -/
theorem TypeName.head_isWord (type : TypeName) : (type.text ++ rest).head?.any isWord = true := by
  rw [TypeName.text, List.append_assoc]
  exact type.name.head_isWord

/-- A type is read where it is written. -/
theorem firstMatch?_written_type (type : TypeName) {found : Match} (boundary : Outside .word rest)
    (noOpening : rest.head? ≠ some '(') (accepted : accept ⟨[], rest⟩ = some found) :
    typePattern.firstMatch? (type.text ++ rest) accept = some found := by
  -- The name goes on to the first character that is no word character.
  have stop : (type.text ++ rest).dropWhile (CharClass.holds .word) = type.suffix ++ rest :=
    type.dropWhile boundary
  rw [typePattern, firstMatch?_append, firstMatch?]
  refine CharClass.lastStop?_of_some type.head_isWord ?_
  rw [stop]
  exact firstMatch?_written_suffix type noOpening accepted

/-- The header of a column is a name, white space and a type, however these are grouped. -/
theorem matchStart?_header (text : Text) : Ddl.ColumnClause.header.matchStart? text =
    (identifier ++ (spaces ++ group typePattern)).firstMatch? text some :=
  firstMatch?_assoc _ _ _

/-- The header of a column clause is read where it is written. -/
theorem matchStart?_written_header (name : QuotedName) (type : TypeName) (words : List Text) :
    ∃ found, ColumnClause.header.matchStart? (name.text ++ Text.spaced (type.text :: words)) =
      some found ∧ found.groupText 0 = name.name.text ∧ found.groupText 1 = type.text := by
  obtain ⟨stop, isName⟩ := firstMatch?_written_name name (spaces ++ group typePattern)
    _ some (spaces_avoids_word _) (spaces_avoids_quote _)
    (outside_spaced (type.text :: words) (by decide)) (outside_spaced _ rfl)
  -- White space separates the type from what follows, so that it is not taken for arguments.
  have noOpening : (Text.spaced words).head? ≠ some '(' := by
    cases words <;> simp
  refine ⟨⟨[⟨name.name.text ++ stop, stop⟩,
    ⟨type.text ++ Text.spaced words, Text.spaced words⟩], Text.spaced words⟩, ?_, ?_, ?_⟩
  · rw [matchStart?_header, isName, Text.spaced_cons, firstMatch?_spaces_single (type.solid.head _),
      firstMatch?]
    exact firstMatch?_written_type type (outside_spaced words (by decide)) noOpening rfl
  · simp [Match.groupText]
  · simp [Match.groupText]

/-- With its header read, a clause gives a column. -/
theorem exists_column?_of_header {text : Text} {found : Match}
    (matched : Ddl.ColumnClause.header.matchStart? text = some found) : ∃ column,
    Ddl.ColumnClause.column? text = some column ∧ column.name = found.groupText 0 ∧
      column.type = found.groupText 1 ∧
        column.references? = Ddl.ColumnClause.references? text := by
  rw [Ddl.ColumnClause.column?, matched]
  exact ⟨_, rfl, rfl, rfl, rfl⟩

variable (clause : ColumnClause)

/-- The words of a column clause have no white space. -/
theorem ColumnClause.words_solid : ∀ word ∈ clause.name.text :: clause.type.text ::
    optionWords clause.options, Solid word := by
  simp only [List.forall_mem_cons]
  exact ⟨clause.name.solid, clause.type.solid, optionWords_solid clause.options⟩

/-- An option of two keywords occurs in a clause that has it. -/
theorem occursIn_pair {first second : String} {kind : OptionKind}
    (pair : (first, second, kind) ∈ keywordPairs)
    (clear : kind ∈ kinds clause.options ∨
      ¬(first.toList <:+ clause.name.text.folded ∧ second.toList <+: clause.type.text.folded)) :
    (keyword first ++ spaces ++ keyword second).occursIn clause.normal =
      decide (kind ∈ kinds clause.options) := by
  -- The two words can only be the name and the type, or both belong to the options.
  have isFirst : IsKeyword first ∧ IsKeyword second := by
    simp only [keywordPairs, List.mem_cons, Prod.mk.injEq, List.not_mem_nil, or_false] at pair
    obtain ⟨rfl, rfl, rfl⟩ | ⟨rfl, rfl, rfl⟩ := pair <;> decide
  rw [Bool.eq_iff_iff, ColumnClause.normal,
    occursIn_keywords_iff isFirst.1 isFirst.2 clause.words_solid, Follows, follows_options pair,
    decide_eq_true_eq]
  constructor
  · rintro (found | given)
    · -- Between the name and the type the pair is excluded, or the option is given as well.
      exact clear.elim id fun absent => absurd found absent
    · exact given
  · exact .inr

/-- A clause is unique when it has the option. -/
theorem occursIn_unique (clear : OptionKind.unique ∈ kinds clause.options ∨
      ∀ word ∈ clause.ownWords, ¬"UNIQUE".toList <:+: word.folded) :
    Ddl.ColumnClause.unique.occursIn clause.normal =
      decide (OptionKind.unique ∈ kinds clause.options) := by
  have own : OptionKind.unique ∈ kinds clause.options ∨ ∀ option ∈ clause.options,
      ∀ word ∈ option.2.ownWords, ¬"UNIQUE".toList <:+: word.folded := by
    refine clear.imp_right fun absent option isOption word member => absent word ?_
    rw [ColumnClause.ownWords]
    refine List.mem_cons_of_mem _ (List.mem_cons_of_mem _ ?_)
    exact List.mem_flatMap.mpr ⟨option, isOption, member⟩
  rw [Bool.eq_iff_iff, decide_eq_true_eq, Ddl.ColumnClause.unique, ColumnClause.normal,
    occursIn_keyword_iff, infix_folded_spaced_iff (by decide), ← unique_options own]
  -- The keyword stands in one of the words, and only the option may bring it in.
  constructor
  · rintro ⟨word, member, found⟩
    -- A word of a clause without the option is its name, its type, or a word of its options.
    obtain given | absent := clear
    · exact (unique_options own).mpr given
    · simp only [List.mem_cons] at member
      obtain rfl | rfl | inOptions := member
      · exact absurd found (absent _ (by simp [ColumnClause.ownWords]))
      · exact absurd found (absent _ (by simp [ColumnClause.ownWords]))
      · exact ⟨word, inOptions, found⟩
  · rintro ⟨word, member, found⟩
    exact ⟨word, List.mem_cons_of_mem _ (List.mem_cons_of_mem _ member), found⟩

/-- The default value of a column is the one that is written. -/
theorem default?_normal (clear : clause.Unambiguous) :
    Ddl.ColumnClause.default? clause.normal = clause.column.default? := by
  have same : ∀ text, Ddl.ColumnClause.defaultOption.search? text =
      (keyword "DEFAULT" ++ (spaces ++ valuePattern)).search? text :=
    search?_congr matchStart?_defaultOption
  -- A type that ends with the keyword is the last word of its clause.
  have atType : wordSearch? "DEFAULT" valuePattern
      (clause.type.text :: optionWords clause.options) =
        wordSearch? "DEFAULT" valuePattern (optionWords clause.options) := by
    refine wordSearch?_cons fun ends second later written => ?_
    rw [clear.defaultType ends] at written
    cases written
  have atName : wordSearch? "DEFAULT" valuePattern
      (clause.name.text :: clause.type.text :: optionWords clause.options) =
        wordSearch? "DEFAULT" valuePattern (clause.type.text :: optionWords clause.options) :=
    wordSearch?_cons fun ends => absurd ends clear.defaultName
  have found := congrArg (Option.map (Text.trimBy CharClass.isQuote))
    (wordSearch?_default clear.defaultTable)
  rw [Option.map_map, Option.map_map] at found
  -- Neither the name nor the type opens the default, and so the search comes to the options.
  rw [Ddl.ColumnClause.default?, same, ColumnClause.normal,
    search?_spaced (by decide) clause.words_solid, atName, atType]
  exact found

/-- What a column refers to is a keyword, white space and a reference, however these are grouped. -/
theorem search?_referencesOption (text : Text) :
    Ddl.ColumnClause.referencesOption.search? text =
      (keyword "REFERENCES" ++ (spaces ++ reference)).search? text := by
  -- At each place the same pieces are tried one after another.
  refine search?_congr (fun text => ?_) text
  rw [matchStart?, ← firstMatch?_append_empty]
  simp only [Ddl.ColumnClause.referencesOption, firstMatch?_assoc]
  rfl

/-- The reference of a column is read when neither the type nor a default value is taken for it. -/
theorem references?_normal (name : "REFERENCES".toList <:+ clause.name.text.folded →
      ¬BeginsWithEnclosed clause.type.suffix)
    (type : "REFERENCES".toList <:+ clause.type.text.folded →
      ∀ option ∈ clause.options.head?, ∀ value ∈ option.2.value?, ¬BeginsWithEnclosed value.text) :
    Ddl.ColumnClause.references? clause.normal = clause.column.references? := by
  have atType := wordSearch?_reference_cons type
  have atName : wordSearch? "REFERENCES" reference
      (clause.name.text :: clause.type.text :: optionWords clause.options) =
        wordSearch? "REFERENCES" reference (clause.type.text :: optionWords clause.options) := by
    refine wordSearch?_cons fun ends second later written => ?_
    -- After the name only the type could be taken for a table.
    obtain ⟨rfl, rfl⟩ := List.cons.inj written
    exact matchStart?_reference_type_eq_none clause.type (optionWords_solid _)
      (name ends) optionWords_head
  rw [Ddl.ColumnClause.references?, search?_referencesOption, ColumnClause.normal,
    search?_spaced (by decide) clause.words_solid, atName, atType]
  exact wordSearch?_reference clause.once

/-- A column clause is read as the column that it describes. -/
theorem column?_normal (clear : clause.Unambiguous) :
    Ddl.ColumnClause.column? clause.normal = some clause.column := by
  -- The header gives the name and the type, and each option is found by a search of its own.
  obtain ⟨found, matched, isName, isType⟩ :=
    matchStart?_written_header clause.name clause.type (optionWords clause.options)
  have notNull : Ddl.ColumnClause.notNull.occursIn clause.normal = _ :=
    occursIn_pair clause (by simp [keywordPairs]) clear.notNull
  have primaryKey : Ddl.ColumnClause.primaryKey.occursIn clause.normal = _ :=
    occursIn_pair clause (by simp [keywordPairs]) clear.primaryKey
  rw [← ColumnClause.normal] at matched
  rw [Ddl.ColumnClause.column?, matched, Option.map_some, notNull, primaryKey,
    occursIn_unique clause clear.unique, default?_normal clause clear,
    references?_normal clause clear.referencesName clear.referencesType, isName, isType]
  simp [ColumnClause.column]

/-- No foreign key begins behind a type. -/
theorem firstMatch?_foreign_suffix (type : TypeName) (options : List (Gap × ColumnOption))
    (next : Pattern) :
    (spaces ++ (keyword "FOREIGN" ++ next)).firstMatch?
      (type.suffix ++ Text.spaced (optionWords options)) accept = none := by
  -- The keyword needs white space before it.
  have outside : ∀ {text : Text}, Outside .space text →
      (spaces ++ (keyword "FOREIGN" ++ next)).firstMatch? text accept = none := by
    intro text outside
    refine firstMatch?_eq_none (by simp [spaces, mayBeEmpty]) ?_
    cases text with
    | nil => rfl
    | cons char later => simpa [Outside, mayMatch, mayBegin, mayBeEmpty, spaces] using outside
  obtain ⟨name, _ | arguments⟩ := type
  · cases options with
    | nil => exact outside rfl
    | cons option later =>
      obtain ⟨name, isFirst, keyword, more, words⟩ := option.2.words_head
      have whole : TypeName.suffix ⟨‹Name›, none⟩ ++ Text.spaced (optionWords (option :: later)) =
          ' ' :: (keyword.text ++ Text.spaced (more ++ optionWords later)) := by
        simp [TypeName.suffix, optionWords, words]
      -- What stands there is the keyword of an option, and none of these begins like the other one.
      have other : ¬"FOREIGN".toList <+:
          (keyword.text ++ Text.spaced (more ++ optionWords later)).folded := by
        rw [Text.folded_append, keyword.folded]
        simp only [firstKeywords, List.mem_cons, List.not_mem_nil, or_false] at isFirst
        obtain rfl | rfl | rfl | rfl | rfl := isFirst <;> simp +decide
      rw [whole, firstMatch?_spaces_single (keyword.solid.head _), firstMatch?_keyword,
        if_neg other]
  · -- Behind the name of a type with arguments stands their parenthesis.
    exact outside (by decide : isSpace '(' = false)

/-- No foreign key opens with a word and a name behind which something else stands. -/
theorem opens_word_name {word : Text} (solid : Solid word) (second : Name)
    (single : rest.head?.any isSpace = false) (other : ¬"FOREIGN".toList <+: rest.folded) :
    ForeignKeyClause.opens (word ++ ' ' :: (second.text ++ ' ' :: rest)) = false := by
  have opening (text : Text) : ForeignKeyClause.opening.matchStart? text =
      (keyword "CONSTRAINT" ++ (spaces ++ (longest .word ++ (spaces ++ (keyword "FOREIGN" ++
        (spaces ++ keyword "KEY")))))).matchStart? text := by
    simp only [matchStart?, ForeignKeyClause.opening, firstMatch?_assoc]
  rw [ForeignKeyClause.opens, opening, matchStart?_keyword_spaces (by decide)
    solid.spaceless (second.isPlain.token.toSolid.head _)]
  split
  · -- The second name is taken for the name of a constraint.
    have stop : (second.text ++ ' ' :: rest).dropWhile (CharClass.holds .word) = ' ' :: rest :=
      second.dropWhile (by decide : isWord ' ' = false)
    rw [matchStart?, firstMatch?_longest (spaces_avoids_word _), stop,
      firstMatch?_spaces_single single, firstMatch?_keyword, if_neg other]
    simp
  · rfl

/-- A column clause is not read as a foreign key. -/
theorem opens_column_normal : ForeignKeyClause.opens clause.normal = false := by
  have opening : ForeignKeyClause.opening.matchStart? clause.normal =
      (keyword "CONSTRAINT" ++ (spaces ++ (longest .word ++ (spaces ++ (keyword "FOREIGN" ++
        (spaces ++ keyword "KEY")))))).matchStart? clause.normal := by
    simp only [matchStart?, ForeignKeyClause.opening, firstMatch?_assoc]
  have single := clause.type.solid.head (Text.spaced (optionWords clause.options))
  rw [ForeignKeyClause.opens, opening, ColumnClause.normal, Text.spaced_cons,
    matchStart?_keyword_spaces (by decide) clause.name.solid.spaceless single]
  split
  · -- The second token of a column clause is its type, and an option that follows is no key.
    have stop : (clause.type.text ++ Text.spaced (optionWords clause.options)).dropWhile
        (CharClass.holds .word) = clause.type.suffix ++ Text.spaced (optionWords clause.options) :=
      clause.type.dropWhile (outside_spaced _ (by decide))
    rw [matchStart?, firstMatch?_longest (spaces_avoids_word _), stop, firstMatch?_foreign_suffix]
    simp
  · rfl

end Written

end Ddl
