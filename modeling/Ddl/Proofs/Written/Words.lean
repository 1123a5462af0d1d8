import Ddl.Proofs.Written.Tokens

/-! In its normal form a clause is a row of words, and patterns match these words one by one. -/

namespace Ddl

namespace Written

open Pattern

variable {space rest : Text} {name : String}

/-- The words that two tokens make, with padding between them. -/
def Padding.join (padding : Padding) (first second : Text) : List Text :=
  if padding.text = [] then [first ++ second] else [first, second]

/-- Two tokens with padding between them are written with a single space or none between them. -/
theorem Padding.spaced_join (padding : Padding) (first second : Text) :
    Text.spaced (padding.join first second) =
      ' ' :: (first ++ (oneSpace padding.text ++ second)) := by
  rw [Padding.join, oneSpace]
  split <;> simp

/-- Two tokens with padding between them begin with one word. -/
theorem Padding.exists_join (padding : Padding) (first second : Text) :
    ∃ word more, padding.join first second = word :: more ∧ ∀ rest,
      word ++ Text.spaced (more ++ rest) =
        first ++ (oneSpace padding.text ++ (second ++ Text.spaced rest)) := by
  -- Without padding both tokens are one word, and with padding the second is a word of its own.
  rw [Padding.join, oneSpace]
  split
  · exact ⟨_, [], rfl, by simp⟩
  · exact ⟨_, [second], rfl, by simp⟩

/-- The words of a reference. -/
def Reference.words (reference : Reference) : List Text :=
  reference.padding.join reference.table.text reference.column.enclosed

/-- The words of an option. -/
def ColumnOption.words : ColumnOption → List Text
  | notNull not _ null => [not.text, null.text]
  | primaryKey primary _ key => [primary.text, key.text]
  | unique keyword => [keyword.text]
  | default keyword _ value => [keyword.text, value.text]
  | references keyword _ reference => keyword.text :: reference.words

/-- The words of the options. -/
def optionWords (options : List (Gap × ColumnOption)) : List Text :=
  options.flatMap fun option => option.2.words

/-- The normal form of a column clause. -/
def ColumnClause.normal (clause : ColumnClause) : Text :=
  clause.name.text ++ Text.spaced (clause.type.text :: optionWords clause.options)

/-- The normal form of a foreign key clause. -/
def KeyClause.normal (clause : KeyClause) : Text :=
  clause.constraint.text ++ Text.spaced ([clause.name.text, clause.foreign.text] ++
    clause.padding.join clause.key.text clause.column.enclosed ++
    clause.references.text :: clause.reference.words)

/-- The normal form of a clause. -/
def Clause.normal : Clause → Text
  | column clause => clause.normal
  | key clause => clause.normal

/-- A gap becomes a single space. -/
@[simp] theorem oneSpace_gap (gap : Gap) : oneSpace gap.text = [' '] := by
  rw [oneSpace, if_neg gap.present]

/-- A reference is spelled by its words with single spaces. -/
theorem Reference.spell_single (reference : Reference) (gap : Gap) :
    spell ((reference.pieces gap.text).map Piece.single) = Text.spaced reference.words := by
  simp [Reference.pieces, Reference.words, Padding.spaced_join, Piece.single]

/-- An option is spelled by its words with single spaces. -/
theorem ColumnOption.spell_single (option : ColumnOption) (gap : Gap) :
    spell ((option.pieces gap.text).map Piece.single) = Text.spaced option.words := by
  cases option with
  | references keyword inner reference =>
    -- The reference stands behind the keyword, with the white space that the option gives.
    simp [ColumnOption.pieces, ColumnOption.words, Piece.single, reference.spell_single inner]
  | _ => simp [ColumnOption.pieces, ColumnOption.words, Piece.single]

/-- Options are spelled by their words with single spaces. -/
theorem spell_single_options (options : List (Gap × ColumnOption)) :
    spell ((options.flatMap fun option => option.2.pieces option.1.text).map Piece.single) =
      Text.spaced (optionWords options) := by
  -- The words of the options stand behind each other as the options do.
  induction options with
  | nil => rfl
  | cons option later ih =>
    rw [List.flatMap_cons, List.map_append, spell_append, ih, option.2.spell_single option.1,
      optionWords, optionWords, List.flatMap_cons, Text.spaced_append]

/-- The normal form of a clause stands behind a single space or none. -/
theorem Clause.spell_single (clause : Clause) :
    spell ((clause.pieces space).map Piece.single) = oneSpace space ++ clause.normal := by
  -- Both kinds of clauses are spelled piece by piece.
  cases clause with
  | column clause =>
    simp [Clause.pieces, ColumnClause.pieces, Clause.normal, ColumnClause.normal, Piece.single,
      spell_single_options]
  | key clause =>
    simp [Clause.pieces, KeyClause.pieces, Clause.normal, KeyClause.normal, Piece.single,
      clause.reference.spell_single clause.gap, Text.spaced_append, Padding.spaced_join]

/-- The words that two words make have no white space. -/
theorem Padding.join_solid (padding : Padding) {first second : Text} (isFirst : Solid first)
    (isSecond : Solid second) : ∀ word ∈ padding.join first second, Solid word := by
  rw [Padding.join]
  split
  · -- Without padding both tokens make one word.
    rw [List.forall_mem_singleton]
    refine ⟨by simp [isFirst.present], fun char member => ?_⟩
    obtain inFirst | inSecond := List.mem_append.mp member
    · exact isFirst.spaceless char inFirst
    · exact isSecond.spaceless char inSecond
  · simpa using ⟨isFirst, isSecond⟩

/-- The words of a reference have no white space. -/
theorem Reference.words_solid (reference : Reference) : ∀ word ∈ reference.words, Solid word :=
  reference.padding.join_solid reference.table.solid reference.column.enclosed_solid

/-- The words of an option have no white space. -/
theorem ColumnOption.words_solid (option : ColumnOption) : ∀ word ∈ option.words, Solid word := by
  -- Each word is a keyword, a value or a word of a reference.
  cases option with
  | notNull not gap null => simpa [ColumnOption.words] using ⟨not.solid, null.solid⟩
  | primaryKey primary gap key => simpa [ColumnOption.words] using ⟨primary.solid, key.solid⟩
  | unique keyword => simpa [ColumnOption.words] using keyword.solid
  | default keyword gap value =>
    simpa [ColumnOption.words] using ⟨keyword.solid, value.token.toSolid⟩
  | references keyword gap reference =>
    simpa [ColumnOption.words] using ⟨keyword.solid, reference.words_solid⟩

/-- The words of options have no white space. -/
theorem optionWords_solid (options : List (Gap × ColumnOption)) :
    ∀ word ∈ optionWords options, Solid word := by
  simp only [optionWords, List.mem_flatMap]
  rintro word ⟨option, -, member⟩
  exact option.2.words_solid word member

/-- White space in front of a pattern avoids word characters. -/
theorem spaces_avoids_word (next : Pattern) : (spaces ++ next).Avoids .word :=
  have apart : spaces.Avoids .word := ⟨rfl, fun _ => isSpace_of_isWord⟩
  apart.append next

/-- White space in front of a pattern avoids quotes. -/
theorem spaces_avoids_quote (next : Pattern) : (spaces ++ next).Avoids .quote :=
  have apart : spaces.Avoids .quote := ⟨rfl, fun _ => isSpace_of_isQuote⟩
  apart.append next

/-- A keyword is matched where it is written. -/
theorem firstMatch?_written_keyword {next : Pattern} {accept : Match → Option Match}
    (keyword : Keyword name) :
    (Pattern.keyword name ++ next).firstMatch? (keyword.text ++ rest) accept =
      next.firstMatch? rest accept := by
  rw [firstMatch?_keyword, Text.folded_append, keyword.folded, if_pos (List.prefix_append _ _),
    ← keyword.length, List.drop_left]

/-- A keyword that white space follows is matched where it is written. -/
theorem firstMatch?_written_keyword_spaces {next : Pattern} {accept : Match → Option Match}
    (keyword : Keyword name) (single : rest.head?.any isSpace = false) :
    (Pattern.keyword name ++ (spaces ++ next)).firstMatch? (keyword.text ++ ' ' :: rest) accept =
      next.firstMatch? rest accept := by
  rw [firstMatch?_written_keyword, firstMatch?_spaces_single single]

/-- Words with spaces in front of them begin with no character of a class that has no space. -/
theorem outside_spaced (words : List Text) {cls : CharClass} (outside : cls.holds ' ' = false) :
    Outside cls (Text.spaced words) := by
  cases words with
  | nil => rfl
  | cons word later => simpa [Outside] using outside

/-- A name does not begin with a character of a class that has no word characters. -/
theorem Name.outside (word : Name) {cls : CharClass}
    (apart : ∀ char, isWord char = true → cls.holds char = false) :
    Outside cls (word.text ++ rest) := by
  -- The first character of a name decides, and there is one.
  obtain ⟨text, present, word⟩ := word
  cases text with
  | nil => exact absurd rfl present
  | cons char later =>
    rw [List.all_cons, Bool.and_eq_true] at word
    simpa [Outside] using apart char word.1

/-- A name begins with a word character. -/
theorem Name.head_isWord (word : Name) : (word.text ++ rest).head?.any isWord = true := by
  -- All characters of the name are word characters, and it has a first one.
  obtain ⟨text, present, word⟩ := word
  cases text with
  | nil => exact absurd rfl present
  | cons char later =>
    rw [List.all_cons, Bool.and_eq_true] at word
    simpa using word.1

/-- The run of word characters at a name is the name, when no word character follows it. -/
theorem Name.dropWhile (word : Name) (boundary : Outside .word rest) :
    (word.text ++ rest).dropWhile isWord = rest := by
  rw [List.dropWhile_append_of_pos (List.all_eq_true.mp word.word)]
  exact dropWhile_of_outside boundary

/-- The mark at a name is skipped, when no quote follows it. -/
theorem Quotes.skipOne_mark (quotes : Quotes) (outside : Outside .quote rest) :
    skipOne .quote (quotes.mark ++ rest) = rest := by
  cases quotes with
  | none => exact skipOne_of_outside outside
  | _ => rfl

/-- A single space or none is dropped, when no white space follows it. -/
theorem dropWhile_oneSpace (space : Text) (boundary : Outside .space rest) :
    (oneSpace space ++ rest).dropWhile isSpace = rest := by
  rw [List.dropWhile_append_of_pos fun char => Text.isSpace_of_isBlank (isBlank_oneSpace space)]
  exact dropWhile_of_outside boundary

/-- White space that may be left out is matched where it is written. -/
theorem firstMatch?_written_padding {next : Pattern} {accept : Match → Option Match}
    (padding : Text) (avoids : next.Avoids .space) (boundary : Outside .space rest) :
    (someSpaces ++ next).firstMatch? (oneSpace padding ++ rest) accept =
      next.firstMatch? rest accept := by
  rw [someSpaces, spaces, firstMatch?_optional_longest avoids]
  exact congrArg (next.firstMatch? · accept) (dropWhile_oneSpace padding boundary)

/-- A name is matched where it is written, and the quotes around it are not part of the group. -/
theorem firstMatch?_written_name (quoted : QuotedName) (next : Pattern) (rest : Text)
    (accept : Match → Option Match) (avoidsWord : next.Avoids .word)
    (avoidsQuote : next.Avoids .quote) (wordBoundary : Outside .word rest)
    (quoteBoundary : Outside .quote rest) :
    ∃ stop, (identifier ++ next).firstMatch? (quoted.text ++ rest) accept =
      next.firstMatch? rest fun after =>
        accept ⟨⟨quoted.name.text ++ stop, stop⟩ :: after.groups, after.rest⟩ := by
  -- The name ends at the quote after it or, when there is none, where the rest begins.
  have closing : Outside .word (quoted.quotes.mark ++ rest) := by
    cases quoted.quotes with
    | none => exact wordBoundary
    | single => exact (by decide : isWord '\'' = false)
    | double => exact (by decide : isWord '"' = false)
  refine ⟨quoted.quotes.mark ++ rest, ?_⟩
  rw [firstMatch?_identifier avoidsWord avoidsQuote, QuotedName.text, List.append_assoc,
    List.append_assoc,
    quoted.quotes.skipOne_mark (quoted.name.outside fun _ => isQuote_of_isWord),
    quoted.name.dropWhile closing, quoted.quotes.skipOne_mark quoteBoundary,
    if_pos quoted.name.head_isWord]

end Written

end Ddl
