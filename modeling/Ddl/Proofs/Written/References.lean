import Ddl.Proofs.Written.Words

/-! A table with a column in parentheses is read where it is written, and not in other tokens. -/

namespace Ddl

namespace Written

open Pattern

variable {text rest : Text} {words : List Text} {next : Pattern} {accept : Match → Option Match}

/-- A name in parentheses, and a pattern after it. -/
def enclosedThen (next : Pattern) : Pattern :=
  char '(' ++ (identifier ++ (char ')' ++ next))

/-- A table and a column in parentheses. -/
def reference : Pattern :=
  identifier ++ (someSpaces ++ enclosedThen empty)

/-- A mark avoids each class to which it does not belong, with anything behind it. -/
theorem avoids_mark {mark : Char} {cls : CharClass} (outside : cls.holds mark = false) :
    (char mark ++ next).Avoids cls :=
  (avoids_char outside).append next

/-- A name in parentheses avoids each class without parentheses. -/
theorem avoids_enclosedThen {cls : CharClass} (outside : cls.holds '(' = false) :
    (enclosedThen next).Avoids cls :=
  avoids_mark outside

/-- What may stand behind a name avoids word characters. -/
theorem avoids_word : (someSpaces ++ (char '(' ++ next)).Avoids .word :=
  (avoids_mark (by decide)).optional_append fun _ => isSpace_of_isWord

/-- What may stand behind a name avoids quotes. -/
theorem avoids_quote : (someSpaces ++ (char '(' ++ next)).Avoids .quote :=
  (avoids_mark rfl).optional_append fun _ => isSpace_of_isQuote

/-- A name in parentheses is read where it is written. -/
theorem firstMatch?_written_enclosed (quoted : QuotedName) (next : Pattern) (rest : Text)
    (accept : Match → Option Match) :
    ∃ stop, (enclosedThen next).firstMatch? (quoted.enclosed ++ rest) accept =
      next.firstMatch? rest fun after =>
        accept ⟨⟨quoted.name.text ++ stop, stop⟩ :: after.groups, after.rest⟩ := by
  have word : CharClass.holds .word ')' = false := by decide
  -- The parenthesis that closes is neither a word character nor a quote.
  obtain ⟨stop, inner⟩ := firstMatch?_written_name quoted (char ')' ++ next) (')' :: rest)
    accept (avoids_mark word) (avoids_mark rfl) word rfl
  refine ⟨stop, ?_⟩
  have written : quoted.enclosed ++ rest = '(' :: (quoted.text ++ ')' :: rest) := by
    simp [QuotedName.enclosed]
  rw [enclosedThen, written, firstMatch?_char_cons, inner, firstMatch?_char_cons]

/-- Behind a name stands a space or a parenthesis, so a class without both ends there. -/
theorem outside_opening (space : Text) {cls : CharClass} (blank : cls.holds ' ' = false)
    (opening : cls.holds '(' = false) : Outside cls (oneSpace space ++ '(' :: rest) := by
  -- Either a space stands there or the parenthesis itself.
  rw [oneSpace]
  split
  · simpa [Outside] using opening
  · simpa [Outside] using blank

/-- A name is read where it is written, with the padding between it and a parenthesis. -/
theorem firstMatch?_written_opening (quoted : QuotedName) (padding : Padding) (next : Pattern)
    (rest : Text) (accept : Match → Option Match) :
    ∃ stop, (identifier ++ (someSpaces ++ (char '(' ++ next))).firstMatch?
        (quoted.text ++ (oneSpace padding.text ++ '(' :: rest)) accept =
      (char '(' ++ next).firstMatch? ('(' :: rest) fun after =>
        accept ⟨⟨quoted.name.text ++ stop, stop⟩ :: after.groups, after.rest⟩ := by
  -- The name ends where its padding begins, and the padding ends at the parenthesis.
  have opening : CharClass.holds .space '(' = false := by decide
  have outside : Outside .space ('(' :: rest) := opening
  obtain ⟨stop, name⟩ := firstMatch?_written_name quoted (someSpaces ++ (char '(' ++ next))
    (oneSpace padding.text ++ '(' :: rest) accept avoids_word avoids_quote
    (outside_opening _ (by decide) (by decide)) (outside_opening _ rfl rfl)
  refine ⟨stop, ?_⟩
  rw [name, firstMatch?_written_padding _ (avoids_mark opening) outside]

/-- A reference is read where it is written. -/
theorem firstMatch?_written_reference (written : Reference) (rest : Text)
    (accept : Match → Option Match) :
    ∃ tableStop columnStop, reference.firstMatch? (written.table.text ++
        (oneSpace written.padding.text ++ (written.column.enclosed ++ rest))) accept =
      accept ⟨[⟨written.table.name.text ++ tableStop, tableStop⟩,
        ⟨written.column.name.text ++ columnStop, columnStop⟩], rest⟩ := by
  -- The table is read first, and the column from where the table and the padding end.
  obtain ⟨tableStop, table⟩ : ∃ stop, reference.firstMatch? (written.table.text ++
        (oneSpace written.padding.text ++ (written.column.enclosed ++ rest))) accept =
      (enclosedThen empty).firstMatch? (written.column.enclosed ++ rest) fun after =>
        accept ⟨⟨written.table.name.text ++ stop, stop⟩ :: after.groups, after.rest⟩ :=
    firstMatch?_written_opening written.table written.padding _ _ accept
  obtain ⟨columnStop, column⟩ := firstMatch?_written_enclosed written.column empty rest
    fun after => accept
      ⟨⟨written.table.name.text ++ tableStop, tableStop⟩ :: after.groups, after.rest⟩
  refine ⟨tableStop, columnStop, ?_⟩
  rw [table, column, firstMatch?]

/-- The text begins with a name in parentheses, with at most one quote on either side of it. -/
def BeginsWithEnclosed (text : Text) : Prop :=
  ∃ (front back : Quotes) (name : Name) (more : Text),
    text = '(' :: (front.mark ++ (name.text ++ (back.mark ++ ')' :: more)))

/-- What is skipped at the beginning of a text is a mark or nothing. -/
theorem exists_mark (text : Text) :
    ∃ quotes : Quotes, text = quotes.mark ++ skipOne .quote text := by
  cases text with
  | nil => exact ⟨.none, rfl⟩
  | cons char rest =>
    cases quote : CharClass.isQuote char with
    | false => exact ⟨.none, by simp [skipOne, CharClass.holds, quote, Quotes.mark]⟩
    | true =>
      -- Patterns know two marks, and quotes have a kind for each.
      obtain rfl | rfl := isQuote_iff.mp quote
      · exact ⟨.double, rfl⟩
      · exact ⟨.single, rfl⟩

/-- The word characters at the beginning of a text make a name. -/
theorem exists_name (word : text.head?.any isWord = true) :
    ∃ name : Name, text = name.text ++ text.dropWhile isWord := by
  -- The longest run of word characters is not empty.
  refine ⟨⟨text.takeWhile isWord, ?_, List.all_takeWhile⟩, List.takeWhile_append_dropWhile.symm⟩
  cases text with
  | nil => simp at word
  | cons char later =>
    have first : isWord char = true := by simpa using word
    simp [first]

/-- Nothing is matched where no name in parentheses begins. -/
theorem firstMatch?_enclosedThen_eq_none (absent : ¬BeginsWithEnclosed text) :
    (enclosedThen next).firstMatch? text accept = none := by
  have word : CharClass.holds .word ')' = false := by decide
  -- The pattern is followed piece by piece up to the first one that is missing.
  rw [enclosedThen, firstMatch?_char]
  split
  · rename_i opening
    obtain ⟨tail, rfl⟩ := List.head?_eq_some_iff.mp opening
    rw [List.tail_cons, firstMatch?_identifier (avoids_mark word) (avoids_mark rfl)]
    split
    · rename_i present
      rw [firstMatch?_char]
      split
      · rename_i closing
        -- All that the pattern asks for stands in the text.
        obtain ⟨front, isFront⟩ := exists_mark tail
        obtain ⟨name, isName⟩ := exists_name present
        obtain ⟨back, isBack⟩ := exists_mark ((skipOne .quote tail).dropWhile isWord)
        obtain ⟨more, isEnd⟩ := List.head?_eq_some_iff.mp closing
        refine absurd ⟨front, back, name, more, ?_⟩ absent
        rw [← isEnd, ← isBack, ← isName, ← isFront]
      · rfl
    · rfl
  · rfl

/-- Words behind a text do not put a name in parentheses at its beginning. -/
theorem not_beginsWithEnclosed_append_spaced (absent : ¬BeginsWithEnclosed text) :
    ¬BeginsWithEnclosed (text ++ Text.spaced words) := by
  cases words with
  | nil => simpa using absent
  | cons word later =>
    rintro ⟨front, back, name, more, written⟩
    -- The name has no white space, so it ends before the next word.
    let enclosed := '(' :: (front.mark ++ (name.text ++ (back.mark ++ [')'])))
    -- None of its parts has a space.
    have spaceless : ' ' ∉ enclosed := by
      simp only [enclosed, List.mem_cons, List.mem_append, List.not_mem_nil, or_false]
      rintro (opening | front | inside | back | closing)
      · cases opening
      · exact absurd (Quotes.isQuote_of_mem_mark front) (by decide)
      · exact absurd (List.all_eq_true.mp name.word _ inside) (by decide)
      · exact absurd (Quotes.isQuote_of_mem_mark back) (by decide)
      · cases closing
    have found : enclosed <+: text ++ ' ' :: (word ++ Text.spaced later) := by
      refine ⟨more, ?_⟩
      rw [← Text.spaced_cons, written]
      simp [enclosed]
    obtain ⟨after, same⟩ := (prefix_append_cons_iff spaceless).mp found
    refine absent ⟨front, back, name, after, ?_⟩
    rw [← same]
    simp [enclosed]

/-- A name is no reference when no name in parentheses follows it. -/
theorem firstMatch?_reference_eq_none (name : Name) (wordBoundary : Outside .word rest)
    (quoteBoundary : Outside .quote rest) (absent : ¬BeginsWithEnclosed (rest.dropWhile isSpace)) :
    reference.firstMatch? (name.text ++ rest) accept = none := by
  -- The name is taken as the table, and then the parenthesis is missing.
  have opening : CharClass.holds .space '(' = false := by decide
  obtain ⟨stop, found⟩ := firstMatch?_written_name ⟨name, .none⟩
    (someSpaces ++ enclosedThen empty) rest accept avoids_word avoids_quote wordBoundary
    quoteBoundary
  rw [QuotedName.text_bare] at found
  rw [reference, found, someSpaces, spaces,
    firstMatch?_optional_longest (avoids_enclosedThen opening)]
  exact firstMatch?_enclosedThen_eq_none absent

/-- A name with words behind it is no reference when the next word is no name in parentheses. -/
theorem matchStart?_reference_eq_none (name : Name) (solid : ∀ word ∈ words, Solid word)
    (absent : ∀ word ∈ words.head?, ¬BeginsWithEnclosed word) :
    reference.matchStart? (name.text ++ Text.spaced words) = none := by
  refine firstMatch?_reference_eq_none name (outside_spaced words (by decide))
    (outside_spaced words rfl) ?_
  cases words with
  | nil =>
    rintro ⟨_, _, _, _, written⟩
    cases written
  | cons word later =>
    -- Behind the white space the next word begins.
    have next : (Text.spaced (word :: later)).dropWhile isSpace = word ++ Text.spaced later := by
      have space : isSpace ' ' = true := by decide
      rw [Text.spaced_cons, List.dropWhile_cons_of_pos space]
      have outside : Outside .space (word ++ Text.spaced later) :=
        (solid word List.mem_cons_self).head _
      exact dropWhile_of_outside outside
    rw [next]
    exact not_beginsWithEnclosed_append_spaced (absent word rfl)

/-- A type is no reference when it has no name as its arguments and none in parentheses follows. -/
theorem matchStart?_reference_type_eq_none (type : TypeName) (solid : ∀ word ∈ words, Solid word)
    (noArgument : ¬BeginsWithEnclosed type.suffix)
    (absent : ∀ word ∈ words.head?, ¬BeginsWithEnclosed word) :
    reference.matchStart? (type.text ++ Text.spaced words) = none := by
  obtain ⟨name, _ | arguments⟩ := type
  · -- A type without arguments is a name like any other.
    simpa [TypeName.text, TypeName.suffix] using matchStart?_reference_eq_none name solid absent
  · -- With arguments their parenthesis is the one that a reference would need.
    have written : TypeName.text ⟨name, some arguments⟩ ++ Text.spaced words =
        name.text ++ ('(' :: (arguments.text ++ [')']) ++ Text.spaced words) := by
      simp [TypeName.text, TypeName.suffix]
    have opening : isSpace '(' = false := by decide
    rw [written]
    refine firstMatch?_reference_eq_none name (by decide : isWord '(' = false) rfl ?_
    rw [List.cons_append, List.dropWhile_cons_of_neg (by simp [opening]), ← List.cons_append]
    exact not_beginsWithEnclosed_append_spaced noArgument

end Written

end Ddl
