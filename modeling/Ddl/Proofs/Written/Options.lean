import Ddl.Proofs.Grammar.Default
import Ddl.Proofs.Written.References

/-! An option is found in the words of options when it is written, and only then. -/

namespace Ddl

namespace Written

open Pattern

variable {word : Text} {options : List (Gap × ColumnOption)}

/-- The kinds of options that are made of two keywords. -/
def keywordPairs : List (String × String × OptionKind) :=
  [("NOT", "NULL", .notNull), ("PRIMARY", "KEY", .primaryKey)]

/-- Two keywords follow each other in the words of their own option alone, or from its last word on.
-/
theorem follows_option {first second : String} {kind : OptionKind}
    (pair : (first, second, kind) ∈ keywordPairs) (option : ColumnOption) :
    ∃ last, ∀ word rest, Follows first second (word :: (option.words ++ rest)) ↔
      option.kind = kind ∨ Follows first second (last :: rest) := by
  simp only [keywordPairs, List.mem_cons, Prod.mk.injEq, List.not_mem_nil, or_false] at pair
  -- Each kind of option is compared with both pairs of keywords.
  cases option with
  -- The two words of a pair stand next to each other in the one option that has them.
  | notNull not gap null =>
    refine ⟨null.text, fun word rest => ?_⟩
    obtain ⟨rfl, rfl, rfl⟩ | ⟨rfl, rfl, rfl⟩ := pair <;>
      simp +decide [ColumnOption.words, ColumnOption.kind, Follows,
        not.folded, null.folded]
  | primaryKey primary gap key =>
    refine ⟨key.text, fun word rest => ?_⟩
    obtain ⟨rfl, rfl, rfl⟩ | ⟨rfl, rfl, rfl⟩ := pair <;>
      simp +decide [ColumnOption.words, ColumnOption.kind, Follows,
        primary.folded, key.folded]
  | unique keyword =>
    refine ⟨keyword.text, fun word rest => ?_⟩
    obtain ⟨rfl, rfl, rfl⟩ | ⟨rfl, rfl, rfl⟩ := pair <;>
      simp +decide [ColumnOption.words, ColumnOption.kind, Follows,
        keyword.folded]
  | default keyword gap value =>
    refine ⟨value.text, fun word rest => ?_⟩
    obtain ⟨rfl, rfl, rfl⟩ | ⟨rfl, rfl, rfl⟩ := pair <;>
      simp +decide [ColumnOption.words, ColumnOption.kind, Follows,
        keyword.folded]
  -- A reference ends with its column in parentheses, in one word with the table or apart.
  | references keyword gap reference =>
    simp only [ColumnOption.words, Reference.words, Padding.join]
    split
    · refine ⟨reference.table.text ++ reference.column.enclosed, fun word rest => ?_⟩
      obtain ⟨rfl, rfl, rfl⟩ | ⟨rfl, rfl, rfl⟩ := pair <;>
        simp +decide [ColumnOption.kind, Follows, keyword.folded]
    · refine ⟨reference.column.enclosed, fun word rest => ?_⟩
      obtain ⟨rfl, rfl, rfl⟩ | ⟨rfl, rfl, rfl⟩ := pair <;>
        simp +decide [ColumnOption.kind, Follows, keyword.folded,
          QuotedName.enclosed]

/-- Two keywords follow each other in the words of options when the options have them. -/
theorem follows_options {first second : String} {kind : OptionKind}
    (pair : (first, second, kind) ∈ keywordPairs) :
    Follows first second (word :: optionWords options) ↔ kind ∈ kinds options := by
  induction options generalizing word with
  | nil => simp [optionWords, Follows, kinds]
  | cons option later ih =>
    -- The pair is this option, or it is looked for behind the last word of the option.
    obtain ⟨last, step⟩ := follows_option pair option.2
    have here := step word (optionWords later)
    rw [kinds, List.map_cons, List.mem_cons]
    exact here.trans (or_congr eq_comm ih)

/-- The words of an option that are not keywords. -/
def ColumnOption.ownWords (option : ColumnOption) : List Text :=
  (option.value?.map Value.text).toList ++
    option.reference?.elim [] fun reference => [reference.table.text, reference.column.text]

/-- A text of letters is in a word of an option when it is in a keyword or in a word of its own. -/
theorem infix_option {sought : List Char} (option : ColumnOption) (present : sought ≠ [])
    (letters : '(' ∉ sought ∧ ')' ∉ sought)
    (own : ∀ word ∈ option.ownWords, ¬sought <:+: word.folded)
    (keywords : ∀ keyword ∈ ["NOT", "NULL", "PRIMARY", "KEY", "DEFAULT", "REFERENCES"],
      ¬sought <:+: keyword.toList) (other : option.kind ≠ .unique) :
    ∀ word ∈ option.words, ¬sought <:+: word.folded := by
  simp only [List.forall_mem_cons] at keywords
  obtain ⟨inNot, inNull, inPrimary, inKey, inDefault, inReferences, -⟩ := keywords
  -- Each kind of option is made of keywords, and two kinds have words of their own.
  cases option with
  | notNull not gap null =>
    simpa [ColumnOption.words, not.folded, null.folded] using ⟨inNot, inNull⟩
  | primaryKey primary gap key =>
    simpa [ColumnOption.words, primary.folded, key.folded] using ⟨inPrimary, inKey⟩
  | unique keyword => exact absurd rfl other
  | default keyword gap value =>
    have inValue := own value.text (by simp [ColumnOption.ownWords, ColumnOption.value?])
    simpa [ColumnOption.words, keyword.folded] using ⟨inDefault, inValue⟩
  | references keyword gap reference =>
    have inTable := own reference.table.text
      (by simp [ColumnOption.ownWords, ColumnOption.reference?, ColumnOption.value?])
    have inColumn := own reference.column.text
      (by simp [ColumnOption.ownWords, ColumnOption.reference?, ColumnOption.value?])
    -- The parentheses do not belong to the letters, so these are in front of them or inside.
    have enclosed : ∀ front : Text, ¬sought <:+: front.folded →
        ¬sought <:+: (front ++ reference.column.enclosed).folded := by
      intro front absent
      have written : (front ++ reference.column.enclosed).folded =
          front.folded ++ '(' :: (reference.column.text.folded ++ ')' :: []) := by
        rw [Text.folded_append, QuotedName.enclosed, Text.folded_cons, Text.folded_append]
        rfl
      rw [written, infix_append_cons_iff letters.1 present,
        infix_append_cons_iff letters.2 present]
      simpa [absent, present] using inColumn
    simp only [ColumnOption.words, List.forall_mem_cons, keyword.folded]
    refine ⟨inReferences, ?_⟩
    rw [Reference.words, Padding.join]
    split
    · simpa using enclosed _ inTable
    · simpa using ⟨inTable, enclosed [] (by simpa using present)⟩

/-- The words of options contain the keyword of one of them, or none of it. -/
theorem unique_options (own : OptionKind.unique ∈ kinds options ∨ ∀ option ∈ options,
      ∀ word ∈ option.2.ownWords, ¬"UNIQUE".toList <:+: word.folded) :
    (∃ word ∈ optionWords options, "UNIQUE".toList <:+: word.folded) ↔
      OptionKind.unique ∈ kinds options := by
  constructor
  · -- A word with the keyword belongs to some option, and only one option has it without own words.
    rintro ⟨word, member, found⟩
    obtain given | own := own
    · exact given
    · obtain ⟨option, isOption, member⟩ := List.mem_flatMap.mp member
      by_contra missing
      have other : option.2.kind ≠ .unique := by
        rintro same
        exact missing (List.mem_map.mpr ⟨option, isOption, same⟩)
      -- Otherwise the word is one of the option's own.
      exact infix_option option.2 (by decide) (by decide) (own option isOption)
        (by decide +kernel) other
        word member found
  · intro given
    obtain ⟨⟨gap, option⟩, isOption, same⟩ := List.mem_map.mp given
    cases option with
    | unique keyword =>
      exact ⟨keyword.text, List.mem_flatMap.mpr ⟨_, isOption, List.mem_singleton_self _⟩,
        keyword.suffix.isInfix⟩
    | _ => cases same

/-- A default value is its whole word. -/
theorem matchStart?_written_value (solid : Solid word) (words : List Text) :
    ∃ found, valuePattern.matchStart? (word ++ Text.spaced words) = some found ∧
      found.groupText 0 = word := by
  -- The words behind it begin with a space.
  have ended : (Text.spaced words).head?.all isSpace = true := by
    cases words <;> simp +decide
  exact ⟨_, matchStart?_value solid ended, by simp [Match.groupText]⟩

/-- A text ends with no keyword when its last character stands for no letter. -/
theorem not_suffix_concat {name : String} (isKeyword : IsKeyword name) (front : Text) {mark : Char}
    (other : (CharClass.capitalOf mark).isUpper = false) :
    ¬name.toList <:+ (front ++ [mark]).folded := by
  -- The last letter of the keyword would be a capital one.
  have written : (front ++ [mark]).folded = front.folded ++ [CharClass.capitalOf mark] := by
    rw [Text.folded_append]
    rfl
  rw [written, List.suffix_concat_iff]
  rintro (empty | ⟨letters, isName, -⟩)
  · exact isKeyword.toList_ne_nil empty
  · have letter := isKeyword.isUpper (show CharClass.capitalOf mark ∈ name.toList by simp [isName])
    simp [other] at letter

/-- The last word of an option, which is its value or ends with no keyword. -/
theorem not_suffix_enclosed {name : String} (isKeyword : IsKeyword name) (front : Text)
    (quoted : QuotedName) : ¬name.toList <:+ (front ++ quoted.enclosed).folded := by
  -- The word ends with a parenthesis.
  have written : front ++ quoted.enclosed = (front ++ '(' :: quoted.text) ++ [')'] := by
    simp [QuotedName.enclosed]
  rw [written]
  exact not_suffix_concat isKeyword _ (by decide)

/-- The words of an option end with none of the keywords that begin another one. -/
theorem not_suffix_option {name : String} (isKeyword : IsKeyword name) (option : ColumnOption)
    (keywords : ∀ keyword ∈ ["NOT", "NULL", "PRIMARY", "KEY", "UNIQUE"],
      ¬name.toList <:+ keyword.toList)
    (inDefault : option.kind = .default → ¬name.toList <:+ "DEFAULT".toList)
    (inReferences : option.kind = .references → ¬name.toList <:+ "REFERENCES".toList)
    (value : ∀ value ∈ option.value?, ¬name.toList <:+ value.text.folded)
    (table : ∀ reference ∈ option.reference?, reference.padding.text ≠ [] →
      ¬name.toList <:+ reference.table.text.folded) :
    ∀ word ∈ option.words, ¬name.toList <:+ word.folded := by
  simp only [List.forall_mem_cons] at keywords
  obtain ⟨inNot, inNull, inPrimary, inKey, inUnique, -⟩ := keywords
  cases option with
  -- Words that are fixed are among the keywords.
  | notNull not gap null =>
    simpa [ColumnOption.words, not.folded, null.folded] using ⟨inNot, inNull⟩
  | primaryKey primary gap key =>
    simpa [ColumnOption.words, primary.folded, key.folded] using ⟨inPrimary, inKey⟩
  | unique keyword => simpa [ColumnOption.words, keyword.folded] using inUnique
  -- Only here and in a reference are there words that are not fixed.
  | default keyword gap value' =>
    simpa [ColumnOption.words, keyword.folded] using ⟨inDefault rfl, value value' rfl⟩
  | references keyword gap reference =>
    simp only [ColumnOption.words, List.forall_mem_cons, keyword.folded]
    refine ⟨inReferences rfl, ?_⟩
    rw [Reference.words, Padding.join]
    split
    · simpa using not_suffix_enclosed isKeyword _ _
    · rename_i separate
      simpa using ⟨table reference rfl separate, not_suffix_enclosed isKeyword [] _⟩

/-- The default value is found in the words of the options when nothing before it ends with the
keyword. -/
theorem wordSearch?_default
    (tables : ∀ option ∈ options.takeWhile fun option => option.2.kind ≠ .default,
      ∀ reference ∈ option.2.reference?, "DEFAULT".toList <:+ reference.table.text.folded →
        reference.padding.text = []) :
    (wordSearch? "DEFAULT" valuePattern (optionWords options)).map (·.groupText 0) =
      (options.findSome? fun option => option.2.value?).map Value.text := by
  induction options with
  | nil => rfl
  | cons option later ih =>
    obtain ⟨gap, option⟩ := option
    have words : optionWords ((gap, option) :: later) = option.words ++ optionWords later :=
      List.flatMap_cons
    -- Either the option is the default value, or its words are passed.
    by_cases isDefault : option.kind = .default
    · cases option with
      | default keyword gap value =>
        obtain ⟨found, matched, isValue⟩ :=
          matchStart?_written_value value.token.toSolid (optionWords later)
        have written : (ColumnOption.default keyword gap value).words ++ optionWords later =
            keyword.text :: value.text :: optionWords later := rfl
        rw [words, written, wordSearch?_found keyword.suffix matched]
        simp [ColumnOption.value?, isValue]
      | _ => cases isDefault
    -- The tables that are looked at are those of this option and of the later ones.
    · have continues : ((gap, option) :: later).takeWhile (fun option => option.2.kind ≠ .default) =
          (gap, option) :: later.takeWhile fun option => option.2.kind ≠ .default := by
        simp [isDefault]
      rw [continues, List.forall_mem_cons] at tables
      have noValue : option.value? = none := by
        cases option <;> first | rfl | exact absurd rfl isDefault
      -- No word of another option ends with the keyword.
      have passed : ∀ word ∈ option.words, ¬"DEFAULT".toList <:+ word.folded := by
        refine not_suffix_option (by decide) option (by decide)
          (fun same => absurd same isDefault) (fun _ => by decide) (by simp [noValue]) ?_
        intro reference member separate ends
        exact separate (tables.1 reference member ends)
      rw [words, wordSearch?_append passed, ih tables.2]
      simp [noValue]

/-- A keyword is the name of its letters. -/
@[simp] theorem Keyword.text_toName {name : String} (keyword : Keyword name) :
    keyword.toName.text = keyword.text := rfl

/-- What does not begin with a parenthesis does not begin with a name in parentheses. -/
theorem not_beginsWithEnclosed {text : Text} (other : text.head? ≠ some '(') :
    ¬BeginsWithEnclosed text := by
  rintro ⟨_, _, _, _, rfl⟩
  exact other rfl

/-- A name is not in parentheses. -/
theorem Name.not_beginsWithEnclosed (name : Name) (rest : Text) :
    ¬BeginsWithEnclosed (name.text ++ rest) := by
  -- It begins with a word character.
  refine Written.not_beginsWithEnclosed fun opening => ?_
  have outside : Outside .word (name.text ++ rest) := by
    rw [Outside, opening]
    exact (by decide : isWord '(' = false)
  obtain ⟨char, later, written⟩ := List.exists_cons_of_ne_nil name.present
  have word := List.all_eq_true.mp name.word char (by simp [written])
  simp [Outside, written, CharClass.holds, word] at outside

/-- A quoted name is not in parentheses. -/
theorem QuotedName.not_beginsWithEnclosed (quoted : QuotedName) (rest : Text) :
    ¬BeginsWithEnclosed (quoted.text ++ rest) := by
  -- It begins with a quote or with its name.
  obtain ⟨name, quotes⟩ := quoted
  cases quotes with
  | none => simpa [QuotedName.text, Quotes.mark] using name.not_beginsWithEnclosed rest
  | _ => exact Written.not_beginsWithEnclosed (by simp [QuotedName.text, Quotes.mark])

/-- An option begins with a keyword, and only a default value can put parentheses after it. -/
theorem exists_words_option (option : ColumnOption)
    (values : ∀ value ∈ option.value?, ¬BeginsWithEnclosed value.text) :
    ∃ (name : Name) (more : List Text), option.words = name.text :: more ∧
      ∀ word ∈ more.head?, ¬BeginsWithEnclosed word := by
  -- Each kind of option has a keyword first, and what follows it is looked at.
  cases option with
  -- A keyword is a name and begins with no parenthesis.
  | notNull not gap null =>
    refine ⟨not.toName, [null.text], rfl, ?_⟩
    simpa using null.toName.not_beginsWithEnclosed []
  | primaryKey primary gap key =>
    refine ⟨primary.toName, [key.text], rfl, ?_⟩
    simpa using key.toName.not_beginsWithEnclosed []
  | unique keyword => exact ⟨keyword.toName, [], rfl, by simp⟩
  | default keyword gap value =>
    refine ⟨keyword.toName, [value.text], rfl, ?_⟩
    simpa using values value rfl
  | references keyword gap reference =>
    refine ⟨keyword.toName, reference.words, rfl, ?_⟩
    rw [Reference.words, Padding.join]
    split
    · simpa using reference.table.not_beginsWithEnclosed reference.column.enclosed
    · simpa using reference.table.not_beginsWithEnclosed []

/-- The keywords with which options begin. -/
def firstKeywords : List String :=
  ["NOT", "PRIMARY", "UNIQUE", "DEFAULT", "REFERENCES"]

/-- The first word of an option is a keyword. -/
theorem ColumnOption.words_head (option : ColumnOption) :
    ∃ name ∈ firstKeywords, ∃ (keyword : Keyword name) (more : List Text),
      option.words = keyword.text :: more := by
  -- Each kind of option has one of its own.
  cases option with
  | notNull not gap null => exact ⟨_, by simp [firstKeywords], not, _, rfl⟩
  | primaryKey primary gap key => exact ⟨_, by simp [firstKeywords], primary, _, rfl⟩
  | unique keyword => exact ⟨_, by simp [firstKeywords], keyword, _, rfl⟩
  | default keyword gap value => exact ⟨_, by simp [firstKeywords], keyword, _, rfl⟩
  | references keyword gap reference => exact ⟨_, by simp [firstKeywords], keyword, _, rfl⟩

/-- No option begins with a name in parentheses. -/
theorem optionWords_head : ∀ word ∈ (optionWords options).head?, ¬BeginsWithEnclosed word := by
  -- Options begin with keywords, in front of which no parenthesis stands.
  cases options with
  | nil => simp [optionWords]
  | cons option later =>
    obtain ⟨name, -, keyword, more, words⟩ := option.2.words_head
    simpa [optionWords, words] using keyword.toName.not_beginsWithEnclosed []

/-- No reference is read after a word before the options. -/
theorem wordSearch?_reference_cons
    (values : "REFERENCES".toList <:+ word.folded →
      ∀ option ∈ options.head?, ∀ value ∈ option.2.value?, ¬BeginsWithEnclosed value.text) :
    wordSearch? "REFERENCES" reference (word :: optionWords options) =
      wordSearch? "REFERENCES" reference (optionWords options) := by
  refine wordSearch?_cons fun ends second later written => ?_
  -- The word would have to be followed by a table, and the options begin with a keyword.
  cases options with
  | nil => cases written
  | cons option others =>
    obtain ⟨name, more, words, inside⟩ := exists_words_option option.2 (values ends option rfl)
    have whole : optionWords (option :: others) = name.text :: (more ++ optionWords others) := by
      rw [optionWords, List.flatMap_cons, words]
      rfl
    have solid := optionWords_solid (option :: others)
    rw [whole] at written solid
    obtain ⟨rfl, rfl⟩ := List.cons.inj written
    rw [List.forall_mem_cons] at solid
    refine matchStart?_reference_eq_none name solid.2 ?_
    cases more with
    | cons next rest => exact inside
    | nil =>
      -- A single keyword is followed by the keyword of the next option.
      exact optionWords_head

/-- The reference among the options is found in their words. -/
theorem wordSearch?_reference (once : (kinds options).Nodup) :
    (wordSearch? "REFERENCES" reference (optionWords options)).map
        (fun found => Target.mk (found.groupText 0) (found.groupText 1)) =
      (options.findSome? fun option => option.2.reference?).map Reference.target := by
  -- The words of each option are passed until the reference comes.
  induction options with
  | nil => rfl
  | cons option later ih =>
    obtain ⟨gap, option⟩ := option
    rw [kinds, List.map_cons, List.nodup_cons] at once
    have words : optionWords ((gap, option) :: later) = option.words ++ optionWords later :=
      List.flatMap_cons
    have rest := ih once.2
    -- Other options without a value are made of keywords, and none of these ends like this one.
    have passed : option.kind ≠ .references → option.value? = none →
        wordSearch? "REFERENCES" reference (option.words ++ optionWords later) =
          wordSearch? "REFERENCES" reference (optionWords later) := by
      intro other noValue
      refine wordSearch?_append (not_suffix_option (by decide) option (by decide)
        (fun _ => by decide) (fun same => absurd same other) (by simp [noValue]) ?_)
      intro reference isReference
      cases option <;> first | exact absurd rfl other | cases isReference
    cases option with
    | references keyword inner written =>
      -- The pattern reads the table and the column as they are spelled in one word or in two.
      obtain ⟨second, more, isWords, text⟩ :=
        written.padding.exists_join written.table.text written.column.enclosed
      obtain ⟨tableStop, columnStop, matched⟩ := firstMatch?_written_reference
        written (Text.spaced (optionWords later)) some
      rw [← text] at matched
      have whole : (ColumnOption.references keyword inner written).words ++ optionWords later =
          keyword.text :: second :: (more ++ optionWords later) := by
        rw [ColumnOption.words, Reference.words, isWords]
        rfl
      rw [words, whole, wordSearch?_found keyword.suffix matched]
      simp [ColumnOption.reference?, Reference.target, Match.groupText]
    | default keyword inner value =>
      have apart : ¬"REFERENCES".toList <:+ keyword.text.folded := by
        rw [keyword.folded]
        decide
      -- The value can end with the keyword, but no second value comes after it.
      have noValue : ∀ option ∈ later.head?, ∀ value ∈ option.2.value?,
          ¬BeginsWithEnclosed value.text := by
        intro option isNext value isValue
        have isDefault : option.2.kind = .default := by
          obtain ⟨gap, option⟩ := option
          cases option <;> first | rfl | cases isValue
        refine absurd (List.mem_map.mpr ⟨option, List.mem_of_mem_head? isNext, ?_⟩) once.1
        exact isDefault
      have written : (ColumnOption.default keyword inner value).words ++ optionWords later =
          keyword.text :: value.text :: optionWords later := rfl
      rw [words, written, wordSearch?_cons fun ends => absurd ends apart,
        wordSearch?_reference_cons fun _ => noValue, rest]
      rfl
    | _ =>
      rw [words, passed (by simp [ColumnOption.kind]) rfl, rest]
      rfl

end Written

end Ddl
