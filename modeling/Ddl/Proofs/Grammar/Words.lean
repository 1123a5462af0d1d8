import Ddl.Proofs.Pattern.Described
import Ddl.Proofs.Written.Normal

/-! The words that patterns describe: keywords, white space, and names between optional quotes. -/

namespace Ddl

namespace Written

/-- White space between two tokens begins with a character. -/
theorem Gap.exists_cons (gap : Gap) :
    ∃ char later, gap.text = char :: later ∧ isSpace char = true := by
  -- There is a first character, and all of them are white space.
  obtain ⟨char, later, spaces⟩ := List.exists_cons_of_ne_nil gap.present
  have blank := gap.blank
  rw [spaces, Text.isBlank, List.all_cons, Bool.and_eq_true] at blank
  exact ⟨char, later, spaces, blank.1⟩

end Written

namespace Grammar

open Pattern Written

/-- A text that patterns take for a keyword. -/
structure Spelling (name : String) where
  text : Text
  isKeyword : IsKeyword name
  /-- With case ignored as patterns ignore it, the text is the keyword. -/
  spells : text.folded = name.toList

/-- A quote of either kind, or nothing. -/
structure Mark where
  text : Text
  atMostOne : text.length ≤ 1
  quote : ∀ char ∈ text, CharClass.isQuote char = true

/-- A name with an optional quote on either side. -/
structure MarkedName where
  /-- The two quotes are independent of each other. -/
  opening : Mark
  name : Name
  closing : Mark

/-- The name as it is written. -/
def MarkedName.text (marked : MarkedName) : Text :=
  marked.opening.text ++ marked.name.text ++ marked.closing.text

variable {stretch rest : Text} {groups : List Text} {name : String}

/-- A keyword is spelled in word characters. -/
theorem Spelling.isWord (spelling : Spelling name) :
    ∀ char ∈ spelling.text, isWord char = true := by
  intro char member
  -- In capital letters each character is one of the keyword's letters.
  have letter : CharClass.capitalOf char ∈ name.toList := by
    rw [← spelling.spells]
    exact List.mem_map_of_mem member
  exact isWord_of_capitalOf (spelling.isKeyword.isUpper letter)

/-- Every spelling of a keyword has as many characters as its name. -/
theorem Spelling.length (spelling : Spelling name) : spelling.text.length = name.length := by
  rw [← String.length_toList, ← spelling.spells, Text.length_folded]

/-- No keyword is spelled by nothing. -/
theorem Spelling.present (spelling : Spelling name) : spelling.text ≠ [] := by
  -- The name of the keyword would be empty, too.
  intro empty
  have spells := spelling.spells
  rw [empty] at spells
  exact spelling.isKeyword.toList_ne_nil spells.symm

/-- One letter of a keyword describes one character after another. -/
theorem describes_letters_iff : (keyword name).Describes stretch groups rest ↔
    stretch.folded = name.toList ∧ groups = [] := by
  rw [keyword]
  -- The pattern is a row of single letters, and the induction is on these.
  induction name.toList generalizing stretch groups with
  | nil =>
    rw [List.foldr_nil, describes_empty_iff, Text.folded, List.map_eq_nil_iff]
  | cons capital later ih =>
    rw [List.foldr_cons, describes_append_iff]
    constructor
    · intro split
      obtain ⟨_, back, _, _, rfl, rfl, before, after⟩ := split
      obtain ⟨⟨char, held, rfl⟩, rfl⟩ := describes_one_iff.mp before
      obtain ⟨spells, rfl⟩ := ih.mp after
      have same : CharClass.capitalOf char = capital := by simpa [CharClass.holds] using held
      exact ⟨by rw [List.singleton_append, Text.folded_cons, same, spells], rfl⟩
    · intro whole
      obtain ⟨spells, rfl⟩ := whole
      cases stretch with
      -- Nothing spells no letter.
      | nil => cases spells
      | cons char back =>
        obtain ⟨same, spells⟩ := List.cons.inj spells
        have held : CharClass.holds (.letter capital) char = true := by
          simpa [CharClass.holds] using same
        exact ⟨[char], back, [], [], rfl, rfl, .one held, ih.mpr ⟨spells, rfl⟩⟩

/-- A spelling is matched by the pattern of its keyword. -/
theorem Spelling.describes (spelling : Spelling name) :
    (keyword name).Describes spelling.text [] rest :=
  describes_letters_iff.mpr ⟨spelling.spells, rfl⟩

/-- What the pattern of a keyword matches is a spelling of it. -/
theorem exists_spelling (isKeyword : IsKeyword name)
    (described : (keyword name).Describes stretch groups rest) :
    ∃ spelling : Spelling name, stretch = spelling.text ∧ groups = [] := by
  obtain ⟨spells, none⟩ := describes_letters_iff.mp described
  exact ⟨⟨stretch, isKeyword, spells⟩, rfl, none⟩

/-- White space between two tokens is matched by the pattern for it. -/
theorem describes_gap (gap : Gap) : spaces.Describes gap.text [] rest :=
  .longest ⟨gap.present, List.all_eq_true.mp gap.blank⟩

/-- What the pattern for white space matches is some. -/
theorem exists_gap (described : spaces.Describes stretch groups rest) :
    ∃ gap : Gap, stretch = gap.text ∧ groups = [] := by
  obtain ⟨run, none⟩ := describes_longest_iff.mp described
  exact ⟨⟨stretch, List.all_eq_true.mpr run.held, run.present⟩, rfl, none⟩

/-- White space is passed up to the first other character. -/
theorem dropWhile_blank (blank : Text.isBlank stretch = true) (outside : Outside .space rest) :
    (stretch ++ rest).dropWhile isSpace = rest := by
  rw [List.dropWhile_append_of_pos fun char => Text.isSpace_of_isBlank blank]
  exact dropWhile_of_outside outside

/-- White space that may be left out is matched by the pattern for it. -/
theorem describes_padding (padding : Padding) : someSpaces.Describes padding.text [] rest := by
  -- White space that is not there counts as left out.
  apply describes_optional_iff.mpr
  by_cases empty : padding.text = []
  · exact .inr ⟨empty, rfl⟩
  · exact .inl (describes_gap ⟨padding.text, padding.blank, empty⟩)

/-- What the pattern for such white space matches is some or none. -/
theorem exists_padding (described : someSpaces.Describes stretch groups rest) :
    ∃ padding : Padding, stretch = padding.text ∧ groups = [] := by
  -- The pattern matches white space, or it is left out.
  rcases describes_optional_iff.mp described with described | ⟨empty, none⟩
  · obtain ⟨gap, same, none⟩ := exists_gap described
    exact ⟨⟨gap.text, gap.blank⟩, same, none⟩
  · exact ⟨⟨[], rfl⟩, empty, none⟩

/-- A mark is matched by the pattern for it, also when it is left out. -/
theorem Mark.describes (mark : Mark) : (optional (one .quote)).Describes mark.text [] rest := by
  obtain ⟨text, atMostOne, quote⟩ := mark
  -- A mark is nothing or one quote, which the alternatives describe in this order.
  apply describes_optional_iff.mpr
  match text, atMostOne, quote with
  | [], _, _ => exact .inr ⟨rfl, rfl⟩
  | [char], _, quote => exact .inl (.one (quote char List.mem_cons_self))

/-- What the pattern for a mark matches is a quote or nothing. -/
theorem exists_mark (described : (optional (one .quote)).Describes stretch groups rest) :
    ∃ mark : Mark, stretch = mark.text ∧ groups = [] := by
  rcases describes_optional_iff.mp described with described | ⟨empty, none⟩
  · -- The one character that is there is a quote.
    obtain ⟨⟨char, held, same⟩, none⟩ := describes_one_iff.mp described
    have quote : ∀ other ∈ [char], CharClass.isQuote other = true :=
      List.forall_mem_singleton.mpr held
    exact ⟨⟨[char], le_refl 1, quote⟩, same, none⟩
  · exact ⟨⟨[], Nat.zero_le 1, by simp⟩, empty, none⟩

/-- A name is matched by the pattern for words. -/
theorem describes_name (name : Name) : (longest .word).Describes name.text [] rest :=
  .longest ⟨name.present, List.all_eq_true.mp name.word⟩

/-- What the pattern for words matches is a name. -/
theorem exists_name (described : (longest .word).Describes stretch groups rest) :
    ∃ name : Name, stretch = name.text ∧ groups = [] := by
  obtain ⟨run, none⟩ := describes_longest_iff.mp described
  exact ⟨⟨stretch, run.present, List.all_eq_true.mpr run.held⟩, rfl, none⟩

/-- Only the name itself is kept as a group. -/
theorem MarkedName.describes (marked : MarkedName) :
    identifier.Describes marked.text [marked.name.text] rest :=
  (marked.opening.describes.append (.group (describes_name marked.name))).append
    marked.closing.describes

/-- What the pattern for identifiers matches is a name with its marks, and the group is the name. -/
theorem exists_markedName (described : identifier.Describes stretch groups rest) :
    ∃ marked : MarkedName, stretch = marked.text ∧ groups = [marked.name.text] := by
  -- The quote behind the name comes off first, and the name is the only group.
  obtain ⟨closing, _, _, rfl, rfl, toName⟩ := described.exists_last exists_mark
  obtain ⟨_, _, _, _, rfl, rfl, isOpening, kept⟩ := describes_append_iff.mp toName
  obtain ⟨opening, rfl, rfl⟩ := exists_mark isOpening
  obtain ⟨_, rfl, named⟩ := describes_group_iff.mp kept
  obtain ⟨name, rfl, rfl⟩ := exists_name named
  exact ⟨⟨opening, name, closing⟩, rfl, rfl⟩

end Grammar

end Ddl
