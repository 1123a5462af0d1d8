import Ddl.Plan
import Ddl.Proofs.Written.Definition

/-! White space around a name in parentheses keeps a reference from being read. -/

namespace Ddl

namespace Written

open Pattern

/-- The tokens of a word and of a name in parentheses behind it, with white space on both sides of
the name. -/
def QuotedName.loosePieces (quoted : QuotedName) (word : Piece) (padding inside : Padding) :
    List Piece :=
  [word, ⟨padding.text, ['(']⟩, ⟨inside.text, quoted.text⟩, ⟨inside.text, [')']⟩]

/-- The words that these tokens make. -/
def QuotedName.looseWords (quoted : QuotedName) (word : Text) (padding inside : Padding) :
    List Text :=
  -- Without white space the name and its parentheses are one token.
  if inside.text = [] then padding.join word quoted.enclosed
  else padding.join word ['('] ++ [quoted.text, [')']]

/-- A column that refers to another one, and whose type has no arguments. -/
structure ReferringColumn where
  name : QuotedName
  gap : Gap
  type : Name
  optionGap : Gap
  references : Keyword "REFERENCES"
  referenceGap : Gap
  reference : Reference

/-- The tokens of the column, with white space on both sides of the name that it refers to. -/
def ReferringColumn.loosePieces (column : ReferringColumn) (inside : Padding) : List Piece :=
  ⟨[], column.name.text⟩ :: ([⟨column.gap.text, column.type.text⟩,
    ⟨column.optionGap.text, column.references.text⟩] ++
    column.reference.column.loosePieces ⟨column.referenceGap.text, column.reference.table.text⟩
      column.reference.padding inside)

/-- The clause of the column with nothing but the name in the parentheses. -/
def ReferringColumn.clause (column : ReferringColumn) : ColumnClause where
  name := column.name
  gap := column.gap
  type := ⟨column.type, none⟩
  options := [(column.optionGap,
    .references column.references column.referenceGap column.reference)]
  once := List.nodup_cons.mpr ⟨List.not_mem_nil, .nil⟩

/-- The tokens of a foreign key, with white space on both sides of each name in parentheses. -/
def KeyClause.loosePieces (clause : KeyClause) (inside : Padding) : List Piece :=
  ⟨[], clause.constraint.text⟩ :: ([⟨clause.nameGap.text, clause.name.text⟩,
    ⟨clause.foreignGap.text, clause.foreign.text⟩] ++
    (clause.column.loosePieces ⟨clause.keyGap.text, clause.key.text⟩ clause.padding inside ++
      ([⟨clause.referencesGap.text, clause.references.text⟩] ++
        clause.reference.column.loosePieces ⟨clause.gap.text, clause.reference.table.text⟩
          clause.reference.padding inside)))

/-- The words of the column behind its name. -/
def ReferringColumn.looseWords (column : ReferringColumn) (inside : Padding) : List Text :=
  column.type.text :: column.references.text ::
    column.reference.column.looseWords column.reference.table.text column.reference.padding inside

/-- The words of the foreign key behind its first keyword. -/
def KeyClause.looseWords (clause : KeyClause) (inside : Padding) : List Text :=
  [clause.name.text, clause.foreign.text] ++
    (clause.column.looseWords clause.key.text clause.padding inside ++ clause.references.text ::
      clause.reference.column.looseWords clause.reference.table.text clause.reference.padding
        inside)

variable {quoted : QuotedName} {padding inside : Padding} {first text : Text}
  {pieces later : List Piece} {words : List Text}

/-- Tokens in a row that can stand between the commas of a definition. -/
structure ClauseTokens (pieces : List Piece) : Prop where
  sound : ∀ piece ∈ pieces, piece.Sound
  /-- Parentheses are closed by the end of the row, not by that of each token. -/
  level : CommaList.depthAfter? 0 (spell pieces) = some 0

/-- Pieces that stand inside of a clause are tokens of one. -/
theorem ClauseTokens.of_forall (inClause : ∀ piece ∈ pieces, piece.InClause) :
    ClauseTokens pieces where
  sound := fun piece member => (inClause piece member).toSound
  level := (IsClause.of_spell inClause).level

/-- Two runs of tokens make one run. -/
theorem ClauseTokens.append (isFront : ClauseTokens pieces) (isBack : ClauseTokens later) :
    ClauseTokens (pieces ++ later) where
  sound := List.forall_mem_append.mpr ⟨isFront.sound, isBack.sound⟩
  level := by
    rw [spell_append, CommaList.depthAfter?_append, isFront.level, Option.bind_some, isBack.level]

/-- The tokens of a clause are spelled as one. -/
theorem ClauseTokens.isClause (tokens : ClauseTokens pieces) : IsClause (spell pieces) where
  toNoComment := (noComment_spell tokens.sound).1
  level := tokens.level

/-- In its normal form a row of tokens has single spaces between them. -/
theorem ClauseTokens.normalize_spell (tokens : ClauseTokens (⟨[], first⟩ :: pieces)) :
    normalize (spell (⟨[], first⟩ :: pieces)) = first ++ spell (pieces.map Piece.single) := by
  obtain ⟨isFirst, sound⟩ := List.forall_mem_cons.mp tokens.sound
  rw [spell_cons, List.nil_append]
  exact Written.normalize_spell isFirst.token sound

/-- A quoted name has no parentheses. -/
theorem QuotedName.not_mem_parentheses (quoted : QuotedName) :
    '(' ∉ quoted.text ∧ ')' ∉ quoted.text :=
  (flat_of_word quoted.isWord_or_isQuote).1

/-- A word and a name in parentheses are tokens, with or without white space in the parentheses. -/
theorem QuotedName.clauseTokens_loosePieces (quoted : QuotedName) {word : Piece}
    (isWord : word.InClause) (padding inside : Padding) :
    ClauseTokens (quoted.loosePieces word padding inside) where
  sound := by
    -- Each of the parentheses is a token of its own here.
    have opening : IsPlain ['('] := ⟨by simp, List.forall_mem_singleton.mpr rfl⟩
    have closing : IsPlain [')'] := ⟨by simp, List.forall_mem_singleton.mpr rfl⟩
    simp only [loosePieces, List.forall_mem_cons]
    exact ⟨isWord.toSound, opening.sound padding.blank, quoted.isPlain.sound inside.blank,
      closing.sound inside.blank, by simp⟩
  level := by
    have front : CommaList.depthAfter? 0 (spell [word]) = some 0 :=
      (ClauseTokens.of_forall (List.forall_mem_singleton.mpr isWord)).level
    have absent {mark : Char} (space : isSpace mark = false) (absent : mark ∉ quoted.text) :
        mark ∉ inside.text ++ (quoted.text ++ inside.text) := by
      have inPadding : mark ∉ inside.text := fun member => by
        simp [Text.isSpace_of_isBlank inside.blank member] at space
      simp [inPadding, absent]
    -- The parentheses have no others inside.
    have written : spell (quoted.loosePieces word padding inside) = spell [word] ++
        (padding.text ++
          '(' :: ((inside.text ++ (quoted.text ++ inside.text)) ++ [')'])) := by
      simp [loosePieces]
    have flat := quoted.not_mem_parentheses
    rw [written, CommaList.depthAfter?_append, front, Option.bind_some,
      CommaList.depthAfter?_append, CommaList.depthAfter?_blank padding.blank, Option.bind_some]
    exact CommaList.depthAfter?_parentheses
      ⟨absent (by decide) flat.1, absent (by decide) flat.2⟩

/-- The word and the name in parentheses are spelled by their words. -/
theorem QuotedName.spell_single_loosePieces (quoted : QuotedName) (gap : Gap) (word : Text)
    (padding inside : Padding) :
    spell ((quoted.loosePieces ⟨gap.text, word⟩ padding inside).map Piece.single) =
      Text.spaced (quoted.looseWords word padding inside) := by
  rw [looseWords]
  split
  · -- Tokens without white space between them are one word.
    rename_i tight
    simp [loosePieces, Piece.single, Padding.spaced_join, enclosed, tight]
  · rename_i loose
    have one : oneSpace inside.text = [' '] := if_neg loose
    simp [loosePieces, Piece.single, Padding.spaced_join, Text.spaced_append, one]

/-- The words begin with the first of the tokens. -/
theorem QuotedName.exists_spaced_looseWords (quoted : QuotedName) (word : Text)
    (padding inside : Padding) (later : List Text) : ∃ rest,
    Text.spaced (quoted.looseWords word padding inside ++ later) = ' ' :: (word ++ rest) := by
  -- With or without white space inside, the word comes first.
  rw [Text.spaced_append, looseWords]
  split
  · exact ⟨_, by rw [Padding.spaced_join, List.cons_append, List.append_assoc]⟩
  · exact ⟨_, by rw [Text.spaced_append, Padding.spaced_join, List.cons_append, List.append_assoc,
      List.cons_append, List.append_assoc]⟩

/-- A column with a reference is made of the tokens of a clause. -/
theorem ReferringColumn.tokens (column : ReferringColumn) (inside : Padding) :
    ClauseTokens (column.loosePieces inside) := by
  -- The words in front have no parentheses, and those of the reference close each other.
  have words : ∀ piece ∈ [⟨[], column.name.text⟩, ⟨column.gap.text, column.type.text⟩,
      (⟨column.optionGap.text, column.references.text⟩ : Piece)], piece.InClause := by
    simp only [List.forall_mem_cons]
    exact ⟨column.name.inClause rfl, column.type.inClause column.gap.blank,
      column.references.inClause column.optionGap.blank, by simp⟩
  have table := column.reference.table.inClause column.referenceGap.blank
  exact (ClauseTokens.of_forall words).append
    (column.reference.column.clauseTokens_loosePieces table _ inside)

/-- A foreign key clause is made of the tokens of a clause. -/
theorem KeyClause.tokens (clause : KeyClause) (inside : Padding) :
    ClauseTokens (clause.loosePieces inside) := by
  -- Its two names in parentheses stand behind words.
  have words : ∀ piece ∈ [⟨[], clause.constraint.text⟩, ⟨clause.nameGap.text, clause.name.text⟩,
      (⟨clause.foreignGap.text, clause.foreign.text⟩ : Piece)], piece.InClause := by
    simp only [List.forall_mem_cons]
    exact ⟨clause.constraint.inClause rfl, clause.name.inClause clause.nameGap.blank,
      clause.foreign.inClause clause.foreignGap.blank, by simp⟩
  have references := clause.references.inClause clause.referencesGap.blank
  have key := clause.key.inClause clause.keyGap.blank
  have table := clause.reference.table.inClause clause.gap.blank
  have behind := (ClauseTokens.of_forall (List.forall_mem_singleton.mpr references)).append
    (clause.reference.column.clauseTokens_loosePieces table clause.reference.padding inside)
  exact (ClauseTokens.of_forall words).append
    ((clause.column.clauseTokens_loosePieces key clause.padding inside).append behind)

/-- In normal form the words of the column have single spaces. -/
theorem ReferringColumn.normalize_loosePieces (column : ReferringColumn) (inside : Padding) :
    normalize (spell (column.loosePieces inside)) =
      column.name.text ++ Text.spaced (column.looseWords inside) := by
  refine (column.tokens inside).normalize_spell.trans ?_
  simp [looseWords, Piece.single, QuotedName.spell_single_loosePieces]

/-- In normal form the words of the key have single spaces. -/
theorem KeyClause.normalize_loosePieces (clause : KeyClause) (inside : Padding) :
    normalize (spell (clause.loosePieces inside)) =
      clause.constraint.text ++ Text.spaced (clause.looseWords inside) := by
  refine (clause.tokens inside).normalize_spell.trans ?_
  simp [looseWords, Piece.single, QuotedName.spell_single_loosePieces, Text.spaced_append]

/-- With no white space in the parentheses the column is written like any other one. -/
theorem ReferringColumn.normalize_of_tight (column : ReferringColumn) (tight : inside.text = []) :
    normalize (spell (column.loosePieces inside)) = column.clause.normal := by
  rw [column.normalize_loosePieces, looseWords, QuotedName.looseWords, if_pos tight]
  simp [clause, ColumnClause.normal, optionWords, ColumnOption.words, Reference.words]

/-- Without white space in its parentheses the key has the normal form of its clause. -/
theorem KeyClause.normalize_of_tight (clause : KeyClause) (tight : inside.text = []) :
    normalize (spell (clause.loosePieces inside)) = clause.normal := by
  rw [clause.normalize_loosePieces, looseWords, QuotedName.looseWords, QuotedName.looseWords,
    if_pos tight, if_pos tight]
  simp [normal, Reference.words]

/-- No reference stands in words that do not close the parentheses that they open. -/
theorem not_infix_reference (apart : ∀ word ∈ first :: words, '(' ∈ word → ')' ∉ word)
    (reference : Grammar.ReferenceText) : ¬reference.text <:+: first ++ Text.spaced words := by
  intro inside
  have spaceless : ' ' ∉ '(' :: (reference.column.text ++ [')']) := by
    have inColumn : ' ' ∉ reference.column.text := fun member =>
      absurd (reference.column.solid.spaceless _ member) (by decide)
    simp [inColumn]
  -- A reference ends with a name in parentheses, and these parentheses are in one word.
  have enclosed : '(' :: (reference.column.text ++ [')']) <:+: first ++ Text.spaced words := by
    refine List.IsInfix.trans (List.IsSuffix.isInfix ?_) inside
    exact ⟨reference.references.text ++ reference.gap.text ++ reference.table.text ++
      reference.padding.text, by simp [Grammar.ReferenceText.text]⟩
  obtain ⟨word, member, inWord⟩ := (infix_spaced_iff spaceless (by simp)).mp enclosed
  exact apart word member (inWord.subset (by simp)) (inWord.subset (by simp))

/-- No target is found in a text in which no reference stands. -/
theorem references?_eq_none (absent : ∀ reference : Grammar.ReferenceText,
    ¬reference.text <:+: text) : Ddl.ColumnClause.references? text = none := by
  -- What a search finds is the text of a reference.
  rw [Ddl.ColumnClause.references?, Option.map_eq_none_iff, ← Option.not_isSome_iff_eq_none,
    isSome_search?_iff]
  rintro ⟨_, _, front, rest, rfl, described⟩
  obtain ⟨reference, rfl, -⟩ := Grammar.exists_referenceText described
  exact absent reference ⟨front, rest, by simp⟩

/-- No key is found in a text in which no reference stands. -/
theorem foreignKey?_eq_none (absent : ∀ reference : Grammar.ReferenceText,
    ¬reference.text <:+: text) : ForeignKeyClause.foreignKey? text = none := by
  rw [← Option.not_isSome_iff_eq_none, Grammar.isSome_foreignKey?_iff]
  rintro ⟨key, inside⟩
  -- The reference is the last part of a key.
  have last : key.reference.text <:+: key.text := (List.suffix_append key.front _).isInfix
  exact absent key.reference (last.trans inside)

/-- With white space around the name, one word opens the parentheses and another one closes them. -/
theorem QuotedName.apart_looseWords (quoted : QuotedName) {word : Text} (unclosed : ')' ∉ word)
    (padding : Padding) (loose : inside.text ≠ []) :
    ∀ part ∈ quoted.looseWords word padding inside, '(' ∈ part → ')' ∉ part := by
  rw [looseWords, if_neg loose, Padding.join]
  have flat := quoted.not_mem_parentheses
  split <;> simp [unclosed, flat]

/-- A name has no parentheses. -/
theorem Name.not_mem_parentheses (name : Name) : '(' ∉ name.text ∧ ')' ∉ name.text :=
  ⟨name.not_mem (by decide), name.not_mem (by decide)⟩

/-- The reference of a column is read if and only if its parentheses hold nothing but the name. -/
theorem ReferringColumn.references?_normalize (column : ReferringColumn) (inside : Padding) :
    Ddl.ColumnClause.references? (normalize (spell (column.loosePieces inside))) =
      if inside.text = [] then some column.reference.target else none := by
  split
  · rename_i tight
    -- A type without arguments is not taken for a table, and there is no default value.
    have bare : ¬BeginsWithEnclosed column.clause.type.suffix := by
      rintro ⟨_, _, _, _, written⟩
      cases written
    have noValue : ∀ option ∈ column.clause.options.head?, ∀ value ∈ option.2.value?,
        ¬BeginsWithEnclosed value.text := by
      simp [clause, ColumnOption.value?]
    rw [column.normalize_of_tight tight, references?_normal _ (fun _ => bare) fun _ => noValue]
    rfl
  · -- The words in front of the parentheses have none, and the others do not close theirs.
    rename_i loose
    rw [column.normalize_loosePieces]
    refine references?_eq_none (not_infix_reference ?_)
    have unclosed := column.reference.table.not_mem_parentheses.2
    simp only [looseWords, List.forall_mem_cons]
    exact ⟨fun opening => absurd opening column.name.not_mem_parentheses.1,
      fun opening => absurd opening column.type.not_mem_parentheses.1,
      fun opening => absurd opening column.references.toName.not_mem_parentheses.1,
      column.reference.column.apart_looseWords unclosed _ loose⟩

/-- The key is read if and only if its parentheses hold nothing but names. -/
theorem KeyClause.foreignKey?_normalize (clause : KeyClause) (inside : Padding) :
    ForeignKeyClause.foreignKey? (normalize (spell (clause.loosePieces inside))) =
      if inside.text = [] then some clause.foreignKey else none := by
  split
  · -- Nothing distinguishes the clause from one that is written without white space.
    rename_i tight
    rw [clause.normalize_of_tight tight, foreignKey?_normal]
  · rename_i loose
    rw [clause.normalize_loosePieces]
    refine foreignKey?_eq_none (not_infix_reference ?_)
    have atKey := clause.key.toName.not_mem_parentheses.2
    have atTable := clause.reference.table.not_mem_parentheses.2
    simp only [looseWords, List.forall_mem_cons, List.forall_mem_append]
    exact ⟨fun opening => absurd opening clause.constraint.toName.not_mem_parentheses.1,
      ⟨fun opening => absurd opening clause.name.not_mem_parentheses.1,
        fun opening => absurd opening clause.foreign.toName.not_mem_parentheses.1, by simp⟩,
      clause.column.apart_looseWords atKey _ loose,
      fun opening => absurd opening clause.references.toName.not_mem_parentheses.1,
      clause.reference.column.apart_looseWords atTable _ loose⟩

/-- The column is read with its name and type, and its reference is read or not. -/
theorem ReferringColumn.exists_ofClause (column : ReferringColumn) (inside : Padding) :
    ∃ found : Column, found.name = column.name.name.text ∧ found.type = column.type.text ∧
      TableBody.ofClause (normalize (spell (column.loosePieces inside))) = .ok ⟨[found],
        if inside.text = [] then [⟨column.name.name.text, column.reference.target⟩] else []⟩ := by
  have written := column.normalize_loosePieces inside
  have references := column.references?_normalize inside
  have opens : ForeignKeyClause.opens (normalize (spell (column.loosePieces inside))) = false := by
    -- Behind the type stands the keyword of a reference.
    have other (rest : Text) : ¬"FOREIGN".toList <+: (column.references.text ++ rest).folded := by
      rw [Text.folded_append, column.references.folded]
      simp +decide
    rw [written]
    exact opens_word_name column.name.solid column.type (column.references.solid.head _) (other _)
  obtain ⟨found, matched, isName, isType⟩ := matchStart?_written_header column.name
    ⟨column.type, none⟩ (column.looseWords inside).tail
  rw [TypeName.text_bare] at matched isType
  -- The name and the type stand in front of all that the white space could change.
  have header : Ddl.ColumnClause.header.matchStart?
      (normalize (spell (column.loosePieces inside))) = some found := by
    rw [written, ← matched]
    rfl
  obtain ⟨given, isGiven, name, type, reference⟩ := exists_column?_of_header header
  refine ⟨given, name.trans isName, type.trans isType, ?_⟩
  rw [TableBody.ofClause, if_neg (by simp [opens]), isGiven]
  simp only [TableBody.ofColumn, reference.trans references, name.trans isName]
  split <;> rfl

/-- The clause gives its key, or it is faulty. -/
theorem KeyClause.ofClause_normalize (clause : KeyClause) (inside : Padding) :
    TableBody.ofClause (normalize (spell (clause.loosePieces inside))) =
      if inside.text = [] then .ok ⟨[], [clause.foreignKey]⟩
      else .error (.invalidConstraint (normalize (spell (clause.loosePieces inside)))) := by
  have opens : ForeignKeyClause.opens (normalize (spell (clause.loosePieces inside))) = true := by
    -- The keywords with which it opens stand in front of the first parenthesis.
    obtain ⟨rest, behind⟩ := clause.column.exists_spaced_looseWords clause.key.text clause.padding
      inside (clause.references.text :: clause.reference.column.looseWords
        clause.reference.table.text clause.reference.padding inside)
    have opens := opens_keywords clause.constraint clause.name clause.foreign clause.key rest
    rw [← behind] at opens
    rw [clause.normalize_loosePieces]
    simpa [looseWords] using opens
  rw [TableBody.ofClause, if_pos opens, clause.foreignKey?_normalize]
  by_cases tight : inside.text = []
  · rw [if_pos tight, if_pos tight]
  · rw [if_neg tight, if_neg tight]

/-- A clause between others gives its body between theirs. -/
theorem ofClauses_between {earlier later : List Text} {front back : TableBody}
    (isFront : TableBody.ofClauses earlier = .ok front)
    (isBack : TableBody.ofClauses later = .ok back) (clause : Text) :
    TableBody.ofClauses (earlier ++ clause :: later) =
      (TableBody.ofClause clause).map fun body => front.append (body.append back) := by
  rw [TableBody.ofClauses_append, isFront, TableBody.ofClauses, isBack]
  -- The others can be read, so that only this clause decides whether there is a fault.
  cases TableBody.ofClause clause <;> rfl

/-- Among any other clauses, a reference gives a foreign key if and only if no white space stands
in its parentheses. With white space there a column loses it, and a constraint is faulty. -/
theorem ofStatement_enclosed (header : Grammar.Header) {tail : Text} {earlier later : List Text}
    {front back : TableBody} (trailing : IsTrailing tail)
    (isClause : ∀ clause ∈ earlier ++ later, IsClause clause)
    (isFront : TableBody.ofClauses (earlier.map normalize) = .ok front)
    (isBack : TableBody.ofClauses (later.map normalize) = .ok back)
    (column : ReferringColumn) (clause : KeyClause) (inside : Padding) :
    (∃ found : Column, found.name = column.name.name.text ∧ found.type = column.type.text ∧
      Table.ofStatement
          (definition header (earlier ++ spell (column.loosePieces inside) :: later) tail) =
        .ok ⟨header.name.name.text, front.columns ++ found :: back.columns, front.foreignKeys ++
          ((if inside.text = [] then [⟨column.name.name.text, column.reference.target⟩] else []) ++
            back.foreignKeys)⟩) ∧
    Table.ofStatement
        (definition header (earlier ++ spell (clause.loosePieces inside) :: later) tail) =
      if inside.text = [] then .ok ⟨header.name.name.text, front.columns ++ back.columns,
        front.foreignKeys ++ clause.foreignKey :: back.foreignKeys⟩
      else .error (.invalidConstraint (normalize (spell (clause.loosePieces inside)))) := by
  -- With either of the two between them, the clauses are those of a definition.
  have read {pieces : List Piece} (tokens : ClauseTokens pieces) (present : spell pieces ≠ []) :
      Table.ofStatement (definition header (earlier ++ spell pieces :: later) tail) =
        (TableBody.ofClause (normalize (spell pieces))).map fun body =>
          ⟨header.name.name.text, front.columns ++ (body.columns ++ back.columns),
            front.foreignKeys ++ (body.foreignKeys ++ back.foreignKeys)⟩ := by
    have clauses : ∀ clause ∈ earlier ++ spell pieces :: later, IsClause clause := by
      rw [List.forall_mem_append] at isClause ⊢
      exact ⟨isClause.1, List.forall_mem_cons.mpr ⟨tokens.isClause, isClause.2⟩⟩
    rw [ofStatement_definition header trailing clauses (join_ne_nil (by simp) present),
      List.map_append, List.map_cons, ofClauses_between isFront isBack]
    cases TableBody.ofClause (normalize (spell pieces)) <;> rfl
  -- What is left is to read the clause itself, as a column or as a constraint.
  constructor
  · obtain ⟨found, isName, isType, given⟩ := column.exists_ofClause inside
    refine ⟨found, isName, isType, ?_⟩
    rw [read (column.tokens inside)
      (by simp [ReferringColumn.loosePieces, column.name.solid.present]), given]
    rfl
  · rw [read (clause.tokens inside)
      (by simp [KeyClause.loosePieces, clause.constraint.solid.present]),
      clause.ofClause_normalize]
    split <;> rfl

/-- A reference without white space in its parentheses is read between two columns, and a constraint
with it is refused there. -/
theorem ofStatement_enclosed_between :
    IsTrailing ";".toList ∧ (∀ clause ∈ ["id INT".toList] ++ ["d INT".toList], IsClause clause) ∧
      (∃ front back, TableBody.ofClauses (["id INT".toList].map normalize) = .ok front ∧
        TableBody.ofClauses (["d INT".toList].map normalize) = .ok back) ∧
      (∃ table, Table.ofStatement
          "CREATE TABLE a (id INT,c INT REFERENCES t(k),d INT);".toList = .ok table ∧
        table.foreignKeys = [⟨"c".toList, "t".toList, "k".toList⟩]) ∧
      Table.ofStatement ("CREATE TABLE a (id INT," ++
          "CONSTRAINT n FOREIGN KEY ( c ) REFERENCES t( k ),d INT);").toList =
        .error (.invalidConstraint "CONSTRAINT n FOREIGN KEY ( c ) REFERENCES t( k )".toList) := by
  -- Both clauses are put between the same columns.
  have trailing : IsTrailing ";".toList := ⟨by decide, by decide, by decide, by decide⟩
  have isClause : ∀ clause ∈ ["id INT".toList] ++ ["d INT".toList], IsClause clause := by
    simp only [List.cons_append, List.nil_append, List.forall_mem_cons]
    exact ⟨⟨⟨by decide, by decide⟩, by decide⟩, ⟨⟨by decide, by decide⟩, by decide⟩, by simp⟩
  have isFront : TableBody.ofClauses (["id INT".toList].map normalize) =
      .ok ⟨[⟨"id".toList, "INT".toList, true, false, false, none, none⟩], []⟩ := by
    decide +kernel
  have isBack : TableBody.ofClauses (["d INT".toList].map normalize) =
      .ok ⟨[⟨"d".toList, "INT".toList, true, false, false, none, none⟩], []⟩ := by
    decide +kernel
  -- The white space inside the parentheses is the one thing that is left open.
  have read := ofStatement_enclosed (headerOf (.of "CREATE") (.of "TABLE") (.of " ") (.of "a"))
    trailing isClause isFront isBack
    ⟨⟨.of "c", .none⟩, .of " ", .of "INT", .of " ", .of "REFERENCES", .of " ",
      ⟨⟨.of "t", .none⟩, .of "", ⟨.of "k", .none⟩⟩⟩
    ⟨.of "CONSTRAINT", .of " ", .of "n", .of " ", .of "FOREIGN", .of " ", .of "KEY", .of " ",
      ⟨.of "c", .none⟩, .of " ", .of "REFERENCES", .of " ",
      ⟨⟨.of "t", .none⟩, .of "", ⟨.of "k", .none⟩⟩⟩
  refine ⟨trailing, isClause, ⟨_, _, isFront, isBack⟩, ?_, ?_⟩
  · obtain ⟨found, -, -, given⟩ := (read (.of "")).1
    refine ⟨_, Eq.trans ?_ given, rfl⟩
    decide +kernel
  · refine Eq.trans ?_ ((read (.of " ")).2.trans ?_)
    · decide +kernel
    · decide +kernel

/-- With a space around the name of its column a table is not waited for. -/
theorem ofStatement_enclosed_lost :
    definition (headerOf (.of "CREATE") (.of "TABLE") (.of " ") (.of "a"))
        [spell (ReferringColumn.loosePieces ⟨⟨.of "c", .none⟩, .of " ", .of "INT", .of " ",
          .of "REFERENCES", .of " ", ⟨⟨.of "t", .none⟩, .of "", ⟨.of "k", .none⟩⟩⟩ (.of " "))] [] =
      "CREATE TABLE a (c INT REFERENCES t( k ))".toList ∧
    Table.ofStatement "CREATE TABLE a (c INT REFERENCES t( k ))".toList = .ok ⟨"a".toList,
      [⟨"c".toList, "INT".toList, true, false, false, none, none⟩], []⟩ ∧
    (Plan.ofStatements none ["CREATE TABLE a (c INT REFERENCES t( k ))".toList,
        "CREATE TABLE t (k INT)".toList]).toOption.map Plan.order =
      some ["a".toList, "t".toList] ∧
    (Plan.ofStatements none ["CREATE TABLE a (c INT REFERENCES t(k))".toList,
        "CREATE TABLE t (k INT)".toList]).toOption.map Plan.order =
      some ["t".toList, "a".toList] := by
  -- The reference is lost with the spaces, and with it the order that it asks for.
  refine ⟨?_, ?_, ?_, ?_⟩
  · decide +kernel
  · decide +kernel
  · decide +kernel
  · decide +kernel

end Written

end Ddl
