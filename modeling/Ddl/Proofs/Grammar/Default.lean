import Ddl.Clause.Column
import Ddl.Proofs.Grammar.Words
import Ddl.Proofs.Text.Trim

/-! A default value is the word behind its keyword, which white space or the end of the clause
ends. -/

namespace Ddl

namespace Pattern

open ColumnClause

variable {word text rest : Text} {accept : Match → Option Match}

/-- A default value, which ends with its word. -/
def valuePattern : Pattern :=
  group (shortest (.except '\n')) ++ either spaces atEnd

/-- The option is a keyword, white space and a value, however these are grouped. -/
theorem matchStart?_defaultOption (text : Text) : defaultOption.matchStart? text =
    (keyword "DEFAULT" ++ (spaces ++ valuePattern)).matchStart? text := by
  rw [matchStart?, defaultOption, firstMatch?_assoc, firstMatch?_assoc]
  rfl

/-- A value ends with the text, or with the white space behind it. -/
theorem firstMatch?_value_end (accept : Match → Option Match)
    (ended : rest.head?.all isSpace = true) (accepts : ∀ rest, accept ⟨[], rest⟩ ≠ none) :
    (either spaces atEnd).firstMatch? rest accept = accept ⟨[], rest.dropWhile isSpace⟩ := by
  cases rest with
  -- Without white space only the second alternative is left.
  | nil => simp [firstMatch?, spaces, CharClass.lastStop?]
  | cons char later =>
    -- White space is taken up to its end, where the outcome is accepted.
    obtain ⟨found, accepted⟩ := Option.ne_none_iff_exists'.mp
      (accepts ((char :: later).dropWhile isSpace))
    have present : (char :: later).head?.any isSpace = true := by simpa using ended
    have taken : spaces.firstMatch? (char :: later) accept = some found :=
      CharClass.lastStop?_of_some present accepted
    rw [firstMatch?, taken, accepted]

/-- A value does not end where a character follows that is no white space. -/
theorem firstMatch?_value_inside {char : Char} (spaceless : isSpace char = false) :
    (either spaces atEnd).firstMatch? (char :: rest) accept = none := by
  -- The end before a last line feed is no exception, since a line feed is white space.
  have lineFeed : char ≠ '\n' := by
    rintro rfl
    exact absurd spaceless (by decide)
  simp [firstMatch?, spaces, CharClass.lastStop?, CharClass.holds, spaceless, lineFeed]

/-- A default value is its whole word. -/
theorem matchStart?_value (solid : Solid word) (ended : rest.head?.all isSpace = true) :
    valuePattern.matchStart? (word ++ rest) =
      some ⟨[⟨word ++ rest, rest⟩], rest.dropWhile isSpace⟩ := by
  have accepted := firstMatch?_value_end (fun after =>
    some ⟨⟨word ++ rest, rest⟩ :: after.groups, after.rest⟩) ended (by simp)
  rw [valuePattern, matchStart?, firstMatch?_append, firstMatch?, firstMatch?]
  -- The shortest stretch goes on to the end of the word, where the match can end first.
  refine CharClass.firstStop?_of_some solid.present (fun char member => ⟨?_, fun later => ?_⟩)
    accepted
  · -- Inside of the word no line ends.
    have lineFeed : char ≠ '\n' := by
      rintro rfl
      exact absurd (solid.spaceless _ member) (by decide)
    simpa [CharClass.holds] using lineFeed
  · exact firstMatch?_value_inside (solid.spaceless char member)

end Pattern

namespace Grammar

open Pattern ColumnClause Written

/-- A default value with its keyword in front of it. -/
structure DefaultText where
  keyword : Spelling "DEFAULT"
  gap : Gap
  value : Text
  solid : Solid value

/-- The default value as it is written. -/
def DefaultText.text (written : DefaultText) : Text :=
  written.keyword.text ++ written.gap.text ++ written.value

variable {text rest : Text} {found : Match}

/-- A default value is matched up to the white space behind it, or up to the end of the text. -/
theorem DefaultText.matchStart? (written : DefaultText) (ended : rest.head?.all isSpace = true) :
    defaultOption.matchStart? (written.text ++ rest) =
      some ⟨[⟨written.value ++ rest, rest⟩], rest.dropWhile isSpace⟩ := by
  obtain ⟨keyword, gap, value, solid⟩ := written
  -- The keyword is passed first, by the number of its letters.
  have begins : "DEFAULT".toList <+: (keyword.text ++ (gap.text ++ (value ++ rest))).folded := by
    rw [Text.folded_append, keyword.spells]
    exact List.prefix_append _ _
  have behind : (keyword.text ++ (gap.text ++ (value ++ rest))).drop "DEFAULT".length =
      gap.text ++ (value ++ rest) := by
    rw [← keyword.length, List.drop_left]
  have present : (gap.text ++ (value ++ rest)).head?.any isSpace = true := by
    obtain ⟨char, later, spaces, blank⟩ := gap.exists_cons
    rw [spaces]
    exact blank
  have passed : (gap.text ++ (value ++ rest)).dropWhile isSpace = value ++ rest :=
    dropWhile_blank gap.blank (solid.head rest)
  -- The white space is taken as a whole, since the value can be read behind it.
  have accepted := matchStart?_value solid ended
  rw [← passed] at accepted
  have taken : (spaces ++ valuePattern).firstMatch? (gap.text ++ (value ++ rest)) some = _ :=
    CharClass.lastStop?_of_some present accepted
  rw [passed] at taken
  rw [DefaultText.text, List.append_assoc, List.append_assoc, matchStart?_defaultOption,
    Pattern.matchStart?, firstMatch?_keyword, if_pos begins, behind]
  exact taken

/-- A text that begins with white space begins with a whole run of it. -/
theorem exists_gap_append (begins : text.head?.any isSpace = true) :
    ∃ (gap : Gap) (rest : Text), text = gap.text ++ rest ∧ rest.head?.any isSpace = false := by
  refine ⟨⟨text.takeWhile isSpace, List.all_takeWhile, ?_⟩, text.dropWhile isSpace,
    List.takeWhile_append_dropWhile.symm, ?_⟩
  · -- The first character is one of the white space.
    cases text with
    | nil => cases begins
    | cons char later =>
      have blank : isSpace char = true := by simpa using begins
      simp [blank]
  · cases first : (text.dropWhile isSpace).head? with
    | none => rfl
    | some char => exact Text.kept_of_head?_dropWhile first

/-- A text that does not begin with white space begins with a whole word. -/
theorem exists_solid_append (present : text ≠ []) (begins : text.head?.any isSpace = false) :
    ∃ word rest, text = word ++ rest ∧ Solid word ∧ rest.head?.all isSpace = true := by
  -- The word goes on to the first white space or to the end.
  refine ⟨text.takeWhile (!isSpace ·), text.dropWhile (!isSpace ·),
    List.takeWhile_append_dropWhile.symm, ⟨?_, ?_⟩, ?_⟩
  · cases text with
    | nil => exact absurd rfl present
    | cons char later =>
      have solid : isSpace char = false := by simpa using begins
      simp [solid]
  · intro char member
    simpa using List.mem_takeWhile_imp member
  · cases first : (text.dropWhile (!isSpace ·)).head? with
    | none => rfl
    | some char => simpa using Text.kept_of_head?_dropWhile first

/-- The name of the option is written in letters. -/
theorem isKeyword_default : IsKeyword "DEFAULT" := by
  decide

/-- A match begins with the keyword and white space. -/
theorem exists_keyword_gap (matched : defaultOption.matchStart? text = some found) :
    ∃ (keyword : Spelling "DEFAULT") (gap : Gap) (behind : Text),
      text = keyword.text ++ (gap.text ++ behind) := by
  obtain ⟨_, split, described⟩ := describes_of_matchStart? matched
  -- The pattern is taken apart from its end: what ends the value, the value, and the white space.
  obtain ⟨_, ending, _, _, rfl, -, described, -⟩ := describes_append_iff.mp described
  obtain ⟨_, value, _, _, rfl, -, described, -⟩ := describes_append_iff.mp described
  obtain ⟨_, _, _, _, rfl, -, first, spaced⟩ := describes_append_iff.mp described
  obtain ⟨keyword, rfl, -⟩ := exists_spelling isKeyword_default first
  obtain ⟨gap, rfl, -⟩ := exists_gap spaced
  exact ⟨keyword, gap, value ++ (ending ++ found.rest), by simpa using split⟩

/-- A text that does not end with white space has a whole word behind the keyword, and the match
takes this word for the value. -/
theorem exists_defaultText (visible : ∀ char ∈ text.getLast?, isSpace char = false)
    (matched : defaultOption.matchStart? text = some found) :
    ∃ written : DefaultText, ∃ rest, text = written.text ++ rest ∧
      rest.head?.all isSpace = true ∧ found.groupText 0 = written.value := by
  obtain ⟨keyword, taken, behind, rfl⟩ := exists_keyword_gap matched
  obtain ⟨char, later, spaces, blank⟩ := taken.exists_cons
  have begins : (taken.text ++ behind).head?.any isSpace = true := by
    simp [spaces, blank]
  -- The match may have left white space to the value, which is now all put in front of it.
  obtain ⟨gap, left, same, outside⟩ := exists_gap_append begins
  rw [same] at visible matched ⊢
  have present : left ≠ [] := by
    rintro rfl
    -- Otherwise the text ends with the white space.
    have blank : isSpace (gap.text.getLast gap.present) = true :=
      Text.isSpace_of_isBlank gap.blank (List.getLast_mem gap.present)
    have last : (keyword.text ++ (gap.text ++ [])).getLast? =
        some (gap.text.getLast gap.present) := by
      rw [List.append_nil, List.getLast?_append, List.getLast?_eq_some_getLast gap.present]
      rfl
    rw [visible _ last] at blank
    cases blank
  -- Behind the white space stands a word, and the match is known for a keyword and a word.
  obtain ⟨word, rest, rfl, solid, ended⟩ := exists_solid_append present outside
  let written : DefaultText := ⟨keyword, gap, word, solid⟩
  have whole : keyword.text ++ (gap.text ++ (word ++ rest)) = written.text ++ rest := by
    simp [written, DefaultText.text]
  refine ⟨written, rest, whole, ended, ?_⟩
  rw [whole, written.matchStart? ended, Option.some.injEq] at matched
  rw [← matched]
  simp [Match.groupText, written]

end Grammar

end Ddl
