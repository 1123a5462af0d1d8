import Ddl.Proofs.Table.WellFormed
import Ddl.Proofs.Text.Single
import Ddl.Proofs.Written.Keys
import Mathlib.Data.Nat.Find

/-! The default value of a clause is the word behind the first keyword that a space follows. -/

namespace Ddl

/-- The clauses of a statement have no other white space than spaces between other characters. -/
theorem TableBody.tidy_of_mem_clausesOf {statement block clause : Text} {start : Nat}
    (given : block? (normalize statement) start = some block)
    (member : clause ∈ clausesOf block) : clause.Tidy := by
  -- A clause is trimmed from a part of the block, which stands in the normal form.
  obtain ⟨opening, closing, -, -, -, rfl⟩ := block?_eq_some_iff.mp given
  obtain ⟨part, inSplit, rfl⟩ := List.mem_map.mp member
  have inside : part <:+: normalize statement :=
    (CommaList.infix_of_mem_split inSplit).trans (Text.infix_between _ opening closing)
  exact Text.tidy_trim fun char stands =>
    (Text.single_trim_collapse _).plain char (inside.subset stands)

/-- Without the letters that have forms outside ASCII, a text that patterns take for a keyword is
the keyword in some case. -/
theorem Grammar.Spelling.map_toUpper {name : String} (spelling : Spelling name)
    (plain : 'I' ∉ name.toList ∧ 'S' ∉ name.toList ∧ 'K' ∉ name.toList) :
    spelling.text.map Char.toUpper = name.toList := by
  -- Each letter of the keyword has no other forms than the small and the capital one.
  rw [← spelling.spells, Text.folded]
  refine List.map_congr_left fun char member => ?_
  have letter : CharClass.capitalOf char ∈ name.toList := by
    rw [← spelling.spells]
    exact List.mem_map_of_mem member
  refine toUpper_eq_capitalOf (spelling.isKeyword.isUpper letter) ⟨?_, ?_, ?_⟩
  · exact fun same => plain.1 (same ▸ letter)
  · exact fun same => plain.2.1 (same ▸ letter)
  · exact fun same => plain.2.2 (same ▸ letter)

namespace ColumnClause

open Pattern Grammar Written

variable {clause rest : Text} {found : Match} {position : Nat}

/-- The text begins with the keyword of a default value, in any case, and a space. -/
def OpensDefault (text : Text) : Prop :=
  (text.take "DEFAULT".length).map Char.toUpper = "DEFAULT".toList ∧
    (text.drop "DEFAULT".length).head? = some ' '

/-- The letters of the keyword and the space behind them are looked at to decide. -/
instance (text : Text) : Decidable (OpensDefault text) :=
  inferInstanceAs (Decidable (_ ∧ _))

/-- A default is opened by the keyword and a space behind it. -/
theorem opensDefault_iff {text : Text} :
    OpensDefault text ↔ ∃ (keyword : Keyword "DEFAULT") (back : Text),
      text = keyword.text ++ ' ' :: back := by
  -- The keyword is what stands in front of the space.
  constructor
  · intro opens
    obtain ⟨spells, space⟩ := opens
    obtain ⟨back, behind⟩ := List.head?_eq_some_iff.mp space
    refine ⟨⟨text.take "DEFAULT".length, isKeyword_default, spells⟩, back, ?_⟩
    rw [← behind]
    exact (List.take_append_drop _ _).symm
  · rintro ⟨keyword, back, rfl⟩
    constructor
    · rw [List.take_left' keyword.length]
      exact keyword.spells
    · rw [List.drop_left' keyword.length]
      rfl

/-- Where the option is matched the keyword and white space begin. -/
theorem exists_keyword_of_matchStart? {text : Text}
    (matched : defaultOption.matchStart? text = some found) :
    ∃ (keyword : Keyword "DEFAULT") (char : Char), isSpace char = true ∧
      keyword.text ++ [char] <+: text := by
  obtain ⟨spelling, gap, behind, rfl⟩ := exists_keyword_gap matched
  obtain ⟨char, later, spaces, blank⟩ := gap.exists_cons
  -- None of the letters of this keyword has a form outside ASCII.
  have spells : spelling.text.map Char.toUpper = "DEFAULT".toList :=
    spelling.map_toUpper (by decide)
  exact ⟨⟨spelling.text, isKeyword_default, spells⟩, char, blank, later ++ behind,
    by simp [spaces]⟩

/-- Where spaces are the only white space, one of them follows the keyword. -/
theorem opensDefault_of_begins {keyword : Keyword "DEFAULT"} {char : Char} (tidy : clause.Tidy)
    (blank : isSpace char = true) (begins : keyword.text ++ [char] <+: clause.drop position) :
    OpensDefault (clause.drop position) := by
  -- The white space behind the keyword is a space, as all of it is.
  have member : char ∈ clause :=
    List.mem_of_mem_drop (begins.subset (List.mem_append_right _ List.mem_cons_self))
  obtain rfl := tidy.plain char member blank
  obtain ⟨back, split⟩ := begins
  exact opensDefault_iff.mpr ⟨keyword, back, by simp [← split]⟩

/-- The keyword of a default value with a space behind it, and what stands around these. -/
structure DefaultPlace where
  front : Text
  keyword : Keyword "DEFAULT"
  back : Text

namespace DefaultPlace

variable (place : DefaultPlace)

/-- The whole text that has the keyword in it. -/
def text : Text :=
  place.front ++ (place.keyword.text ++ ' ' :: place.back)

/-- The longest run without spaces that follows the spaces behind the keyword. -/
def word : Text :=
  (place.back.dropWhile (· == ' ')).takeWhile (· != ' ')

/-- The text up to the end of the word. -/
def upToWord : Text :=
  place.front ++ (place.keyword.text ++ ' ' :: (place.back.takeWhile (· == ' ') ++ place.word))

/-- No such keyword stands further in front in the same text. -/
def IsFirst : Prop :=
  ∀ other : DefaultPlace, other.text = place.text → place.front.length ≤ other.front.length

variable {place : DefaultPlace}

/-- A default is opened at its place. -/
theorem opens_drop (place : DefaultPlace) : OpensDefault (place.text.drop place.front.length) := by
  rw [text, List.drop_left]
  exact opensDefault_iff.mpr ⟨place.keyword, place.back, rfl⟩

/-- Where a default is opened there is a place for it. -/
theorem exists_of_opens (opens : OpensDefault (clause.drop position)) :
    ∃ place : DefaultPlace, place.text = clause ∧ place.front.length ≤ position := by
  -- The clause is cut where the keyword begins.
  obtain ⟨keyword, back, split⟩ := opensDefault_iff.mp opens
  refine ⟨⟨clause.take position, keyword, back⟩, ?_, List.length_take_le _ _⟩
  rw [text, ← split]
  exact List.take_append_drop _ _

/-- Whether a place comes first is seen from the text that begins in front of it. -/
theorem isFirst_iff : place.IsFirst ↔
    ∀ earlier < place.front.length, ¬OpensDefault (place.text.drop earlier) := by
  constructor
  · intro first earlier before opens
    -- What opens there is another place with less in front of it.
    obtain ⟨other, same, length⟩ := exists_of_opens opens
    have later := first other same
    omega
  · intro none other same
    apply Nat.le_of_not_lt
    intro before
    exact none _ before (same ▸ other.opens_drop)

/-- Whether a place is the first one is decided by looking at all earlier ones. -/
instance : Decidable place.IsFirst :=
  decidable_of_iff _ isFirst_iff.symm

/-- Some place comes first when there are any. -/
theorem exists_isFirst (place : DefaultPlace) :
    ∃ first : DefaultPlace, first.text = place.text ∧ first.IsFirst := by
  -- Among the positions at which a default is opened one comes first.
  have some : ∃ position, OpensDefault (place.text.drop position) := ⟨_, place.opens_drop⟩
  obtain ⟨first, same, length⟩ := exists_of_opens (Nat.find_spec some)
  refine ⟨first, same, isFirst_iff.mpr fun earlier before => ?_⟩
  rw [same]
  exact Nat.find_min some (before.trans_le length)

/-- What follows the word begins with a space when there is anything. -/
theorem exists_text_eq (place : DefaultPlace) :
    ∃ rest, place.text = place.upToWord ++ rest ∧ rest.head?.all isSpace = true := by
  -- The word goes on to the next space or to the end.
  have space : isSpace ' ' = true := by decide
  refine ⟨(place.back.dropWhile (· == ' ')).dropWhile (· != ' '), ?_, ?_⟩
  · simp [text, upToWord, word]
  · cases first : ((place.back.dropWhile (· == ' ')).dropWhile (· != ' ')).head? with
    | none => rfl
    | some char =>
      have same : char = ' ' := by simpa using Text.kept_of_head?_dropWhile first
      simpa [same] using space

/-- A clause that does not end with a space has a word behind the keyword. -/
theorem word_ne_nil (tidy : place.text.Tidy) : place.word ≠ [] := by
  intro empty
  -- Otherwise only spaces stand behind the keyword, up to the end.
  have spaces : ∀ char ∈ ' ' :: place.back, char = ' ' := by
    have passed : place.back.dropWhile (· == ' ') = [] := by
      cases left : place.back.dropWhile (· == ' ') with
      | nil => rfl
      | cons char later =>
        have head : (place.back.dropWhile (· == ' ')).head? = some char := by rw [left]; rfl
        have kept := Text.kept_of_head?_dropWhile head
        simp [word, left, bne, kept] at empty
    simpa using List.dropWhile_eq_nil_iff.mp passed
  -- The text's last character is then a space, which a tidy text does not end with.
  have last : place.text.getLast? =
      some ((' ' :: place.back).getLast (List.cons_ne_nil _ _)) := by
    rw [text, ← List.append_assoc, List.getLast?_append, List.getLast?_eq_some_getLast
      (List.cons_ne_nil _ _)]
    rfl
  have space := spaces _ (List.getLast_mem (List.cons_ne_nil ' ' place.back))
  exact absurd (tidy.ends _ last) (by rw [space]; decide)

/-- The word behind the keyword is solid. -/
theorem solid_word (tidy : place.text.Tidy) : Solid place.word where
  present := word_ne_nil tidy
  spaceless := by
    -- The word ends at a space, and there is no other white space in the clause.
    intro char member
    have other : char ≠ ' ' := by simpa using List.mem_takeWhile_imp member
    have behind : char ∈ place.back :=
      (List.dropWhile_sublist _).subset ((List.takeWhile_prefix _).subset member)
    cases blank : isSpace char with
    | false => rfl
    | true => exact absurd (tidy.plain char (by simp [text, behind]) blank) other

/-- The keyword with its white space and the word behind it. -/
def written (place : DefaultPlace) (tidy : place.text.Tidy) : DefaultText where
  keyword := place.keyword.spelling
  gap := {
    text := ' ' :: place.back.takeWhile (· == ' ')
    blank := by
      have space : isSpace ' ' = true := by decide
      rw [Text.isBlank, List.all_cons, space, Bool.true_and, List.all_eq_true]
      intro char member
      have same : char = ' ' := by simpa using List.mem_takeWhile_imp member
      rw [same, space]
    present := List.cons_ne_nil _ _ }
  value := place.word
  solid := solid_word tidy

/-- In front of the first place nothing matches, whatever follows the word there. -/
theorem matchStart?_eq_none (tidy : place.text.Tidy) (first : place.IsFirst) (rest : Text)
    (before : position < place.front.length) :
    defaultOption.matchStart? ((place.upToWord ++ rest).drop position) = none := by
  cases matched : defaultOption.matchStart? ((place.upToWord ++ rest).drop position) with
  | none => rfl
  | some found =>
    obtain ⟨keyword, char, blank, begins⟩ := exists_keyword_of_matchStart? matched
    obtain ⟨behind, split, -⟩ := place.exists_text_eq
    have length : keyword.text.length = 7 := keyword.length
    -- An earlier keyword and its white space end before the keyword of the place does.
    have room : position + 8 ≤ place.upToWord.length := by
      have same : place.keyword.text.length = 7 := place.keyword.length
      simp only [upToWord, List.length_append, List.length_cons]
      omega
    rw [List.drop_append_of_le_length (by omega)] at begins
    have inside : keyword.text ++ [char] <+: place.upToWord.drop position := by
      refine List.prefix_of_prefix_length_le begins (List.prefix_append _ _) ?_
      simp only [List.length_append, List.length_singleton, List.length_drop]
      omega
    -- So they stand in the text of the place as well, where nothing comes before it.
    have again : place.upToWord.drop position <+: place.text.drop position := by
      rw [split, List.drop_append_of_le_length (by omega)]
      exact List.prefix_append _ _
    exact absurd (opensDefault_of_begins tidy blank (inside.trans again))
      (isFirst_iff.mp first position before)

/-- The default value is read from the first place, whatever follows the word there. -/
theorem default?_upToWord (tidy : place.text.Tidy) (first : place.IsFirst)
    (ended : rest.head?.all isSpace = true) :
    default? (place.upToWord ++ rest) = some (place.word.trimBy CharClass.isQuote) := by
  -- At the place itself a keyword and a word stand in front of the rest.
  have here : (place.upToWord ++ rest).drop place.front.length =
      (place.written tidy).text ++ rest := by
    simp [upToWord, written, DefaultText.text, Keyword.spelling]
  have matched := (place.written tidy).matchStart? ended
  rw [← here] at matched
  rw [default?, search?_eq_some_iff.mpr ⟨place.front.length, matched,
    fun earlier before => matchStart?_eq_none tidy first rest before⟩]
  simp [Match.groupText, written]

end DefaultPlace

/-- No default value is found where no place is. -/
theorem default?_eq_none (tidy : clause.Tidy)
    (absent : ∀ place : DefaultPlace, place.text ≠ clause) : default? clause = none := by
  cases searched : defaultOption.search? clause with
  | none => rw [default?, searched, Option.map_none]
  | some found =>
    -- A match would begin with the keyword and a space.
    obtain ⟨position, matched, -⟩ := search?_eq_some_iff.mp searched
    obtain ⟨keyword, char, blank, begins⟩ := exists_keyword_of_matchStart? matched
    obtain ⟨place, same, -⟩ :=
      DefaultPlace.exists_of_opens (opensDefault_of_begins tidy blank begins)
    exact absurd same (absent place)

/-- In a clause whose white space is spaces between other characters, no default value is found just
where the keyword is nowhere followed by a space. Otherwise one such keyword comes first, and the
default value is the word behind it without the quotes at its ends. What follows the word does not
matter. -/
theorem default?_exact (tidy : clause.Tidy) :
    (default? clause = none ↔ ∀ place : DefaultPlace, place.text ≠ clause) ∧
      ((∃ place : DefaultPlace, place.text = clause) →
        ∃ first : DefaultPlace, first.text = clause ∧ first.IsFirst) ∧
      ∀ place : DefaultPlace, place.text = clause → place.IsFirst →
        place.word ≠ [] ∧
        default? clause = some (place.word.trimBy CharClass.isQuote) ∧
        ∀ rest : Text, rest.head?.all isSpace = true →
          default? (place.upToWord ++ rest) = default? clause := by
  -- The clause itself is the case in which the text stays as it is behind the word.
  have value : ∀ place : DefaultPlace, place.text = clause → place.IsFirst →
      default? clause = some (place.word.trimBy CharClass.isQuote) := by
    rintro place rfl first
    obtain ⟨rest, split, ended⟩ := place.exists_text_eq
    rw [← place.default?_upToWord tidy first ended, ← split]
  have isFirst : ∀ place : DefaultPlace, place.text = clause →
      ∃ first : DefaultPlace, first.text = clause ∧ first.IsFirst := by
    rintro place rfl
    exact place.exists_isFirst
  refine ⟨⟨fun missing place same => ?_, default?_eq_none tidy⟩, fun ⟨place, same⟩ => ?_, ?_⟩
  · -- Any place would bring a first one, whose value is found.
    obtain ⟨first, same, isFirst⟩ := isFirst place same
    rw [value first same isFirst] at missing
    cases missing
  · exact isFirst place same
  · intro place same first
    refine ⟨DefaultPlace.word_ne_nil (same ▸ tidy), value place same first, fun rest ended => ?_⟩
    rw [value place same first, DefaultPlace.default?_upToWord (same ▸ tidy) first ended]

/-- A clause in which the keyword stands three times, first in a longer word. -/
def threeDefaults : DefaultPlace where
  front := "a DEFAULTED ".toList
  keyword := .of "Default" isKeyword_default
  back := "  \"'it''s'\"  UNIQUE DEFAULT 1".toList

/-- The second of the three is the first with a space behind it. -/
theorem default?_exact_threeDefaults : threeDefaults.text.Tidy ∧ threeDefaults.IsFirst ∧
    default? threeDefaults.text = some "it''s".toList := by
  -- The first keyword has no space behind it, and the third one comes later.
  have tidy : threeDefaults.text.Tidy := by decide +kernel
  have first : threeDefaults.IsFirst := by decide +kernel
  obtain ⟨-, -, exact⟩ := default?_exact tidy
  exact ⟨tidy, first, (exact _ rfl first).2.1.trans (by decide +kernel)⟩

end ColumnClause

end Ddl
