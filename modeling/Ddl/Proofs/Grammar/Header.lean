import Ddl.Proofs.Grammar.Words
import Ddl.Proofs.Written.Words

/-! The header of a table is found at the first place where one stands, and it can be read there in
one way only. -/

namespace Ddl

namespace Grammar

open Pattern Written

/-- The keywords that may stand in front of a name, each with white space behind it. -/
structure Guard where
  ifWord : Spelling "IF"
  ifGap : Gap
  notWord : Spelling "NOT"
  notGap : Gap
  existsWord : Spelling "EXISTS"
  existsGap : Gap

/-- The keywords as they are written. -/
def Guard.text (guard : Guard) : Text :=
  guard.ifWord.text ++ guard.ifGap.text ++ guard.notWord.text ++ guard.notGap.text ++
    guard.existsWord.text ++ guard.existsGap.text

/-- The header of a table. -/
structure Header where
  create : Spelling "CREATE"
  createGap : Gap
  table : Spelling "TABLE"
  tableGap : Gap
  guard? : Option Guard
  name : MarkedName
  /-- White space in front of the parenthesis. -/
  padding : Padding

/-- The keywords in front of the name, if there are any. -/
def Header.guardText (header : Header) : Text :=
  header.guard?.elim [] Guard.text

/-- The header up to the parenthesis. -/
def Header.front (header : Header) : Text :=
  header.create.text ++ header.createGap.text ++ header.table.text ++ header.tableGap.text ++
    header.guardText ++ header.name.text ++ header.padding.text

/-- The header as it is written. -/
def Header.text (header : Header) : Text :=
  header.front ++ ['(']

variable {stretch text rest other : Text} {groups : List Text} {name : String}

/-- The keywords in front of a name are matched by their patterns. -/
theorem Guard.describes (guard : Guard) :
    (keyword "IF" ++ spaces ++ keyword "NOT" ++ spaces ++ keyword "EXISTS" ++ spaces).Describes
      guard.text [] rest :=
  ((((guard.ifWord.describes.append (describes_gap guard.ifGap)).append
    guard.notWord.describes).append (describes_gap guard.notGap)).append
    guard.existsWord.describes).append (describes_gap guard.existsGap)

/-- What the patterns of these keywords match are the keywords. -/
theorem exists_guard (described :
    (keyword "IF" ++ spaces ++ keyword "NOT" ++ spaces ++ keyword "EXISTS" ++ spaces).Describes
      stretch groups rest) : ∃ guard : Guard, stretch = guard.text ∧ groups = [] := by
  -- The pieces come off from the last one to the first.
  obtain ⟨existsGap, _, _, rfl, rfl, toExists⟩ := described.exists_last exists_gap
  obtain ⟨existsWord, _, _, rfl, rfl, toNotGap⟩ :=
    toExists.exists_last (exists_spelling (by decide))
  obtain ⟨notGap, _, _, rfl, rfl, toNot⟩ := toNotGap.exists_last exists_gap
  obtain ⟨notWord, _, _, rfl, rfl, toIfGap⟩ := toNot.exists_last (exists_spelling (by decide))
  obtain ⟨ifGap, _, _, rfl, rfl, toIf⟩ := toIfGap.exists_last exists_gap
  obtain ⟨ifWord, rfl, rfl⟩ := exists_spelling (by decide) toIf
  exact ⟨⟨ifWord, ifGap, notWord, notGap, existsWord, existsGap⟩, rfl, rfl⟩

/-- A header is matched by its pattern, with its name as the group. -/
theorem Header.describes (header : Header) :
    TableHeader.pattern.Describes header.text [header.name.name.text] rest := by
  obtain ⟨create, createGap, table, tableGap, guard?, name, padding⟩ := header
  -- The keywords that may be left out are one piece of the row.
  have guarded : ∀ {rest}, (Pattern.optional (keyword "IF" ++ spaces ++ keyword "NOT" ++ spaces ++
      keyword "EXISTS" ++ spaces)).Describes (guard?.elim [] Guard.text) [] rest := by
    intro rest
    cases guard? with
    | none => exact describes_optional_iff.mpr (.inr ⟨rfl, rfl⟩)
    | some guard => exact describes_optional_iff.mpr (.inl guard.describes)
  exact ((((((create.describes.append (describes_gap createGap)).append table.describes).append
    (describes_gap tableGap)).append guarded).append name.describes).append
    (describes_padding padding)).append (describes_char _)

/-- The pattern of headers describes nothing but headers. -/
theorem exists_header (described : TableHeader.pattern.Describes stretch groups rest) :
    ∃ header : Header, stretch = header.text ∧ groups = [header.name.name.text] := by
  obtain ⟨_, _, rfl, rfl, toPadding⟩ := described.exists_last_char
  obtain ⟨padding, _, _, rfl, rfl, toName⟩ := toPadding.exists_last exists_padding
  obtain ⟨marked, _, _, rfl, rfl, toGuard⟩ := toName.exists_last exists_markedName
  obtain ⟨_, _, _, _, rfl, rfl, toTableGap, guarded⟩ := describes_append_iff.mp toGuard
  obtain ⟨tableGap, _, _, rfl, rfl, toTable⟩ := toTableGap.exists_last exists_gap
  obtain ⟨table, _, _, rfl, rfl, toCreateGap⟩ := toTable.exists_last (exists_spelling (by decide))
  obtain ⟨createGap, _, _, rfl, rfl, toCreate⟩ := toCreateGap.exists_last exists_gap
  obtain ⟨create, rfl, rfl⟩ := exists_spelling (by decide) toCreate
  -- The keywords in front of the name are there or left out.
  rcases describes_optional_iff.mp guarded with guarded | ⟨rfl, rfl⟩
  · obtain ⟨guard, rfl, rfl⟩ := exists_guard guarded
    exact ⟨⟨create, createGap, table, tableGap, some guard, marked, padding⟩, rfl, rfl⟩
  · exact ⟨⟨create, createGap, table, tableGap, none, marked, padding⟩, rfl, rfl⟩

/-- The pattern matches where a header begins. -/
theorem matches_header_iff :
    TableHeader.pattern.Matches text ↔ ∃ header : Header, header.text <+: text := by
  -- What is matched is the text of a header, and the text of each header is matched.
  rw [matches_iff]
  constructor
  · intro described
    obtain ⟨stretch, groups, rest, rfl, described⟩ := described
    obtain ⟨header, rfl, -⟩ := exists_header described
    exact ⟨header, List.prefix_append _ _⟩
  · intro begins
    obtain ⟨header, rest, rfl⟩ := begins
    exact ⟨_, _, rest, rfl, header.describes⟩

/-- What is left of a text behind a keyword and the white space after it. -/
def behindKeyword (name : String) (text : Text) : Text :=
  (text.drop name.length).dropWhile isSpace

/-- The name with which a text begins, behind an optional quote. -/
def nameOf (text : Text) : Text :=
  (skipOne .quote text).takeWhile isWord

/-- What is left of a text behind a name between optional quotes and the white space after it. -/
def behindName (text : Text) : Text :=
  (skipOne .quote ((skipOne .quote text).dropWhile isWord)).dropWhile isSpace

/-- No run is taken where no character of the class stands. -/
theorem takeWhile_of_outside {cls : CharClass} (outside : Outside cls text) :
    text.takeWhile cls.holds = [] := by
  -- The text begins with no such character.
  cases text with
  | nil => rfl
  | cons char later =>
    have apart : cls.holds char = false := by simpa [Outside] using outside
    simp [apart]

/-- No character of a class of marks or spaces stands at the beginning of a keyword. -/
theorem Spelling.outside (spelling : Spelling name) {cls : CharClass}
    (apart : ∀ char, Ddl.isWord char = true → cls.holds char = false) :
    Outside cls (spelling.text ++ rest) := by
  -- The first character of the keyword is a word character.
  obtain ⟨char, later, letters⟩ := List.exists_cons_of_ne_nil spelling.present
  have word := spelling.isWord char (by rw [letters]; exact List.mem_cons_self)
  rw [letters]
  simpa [Outside] using apart char word

/-- A mark is skipped, also when it is left out and no quote follows. -/
theorem Mark.skipOne_append (mark : Mark) (outside : Outside .quote rest) :
    skipOne .quote (mark.text ++ rest) = rest := by
  -- The mark is nothing or one quote.
  obtain ⟨text, atMostOne, quote⟩ := mark
  match text, atMostOne, quote with
  | [], _, _ => exact skipOne_of_outside outside
  | [char], _, quote =>
    have held : CharClass.holds .quote char = true := quote char List.mem_cons_self
    simp [skipOne, held]

/-- A mark is no character of a class that has no quotes. -/
theorem Mark.outside (mark : Mark) {cls : CharClass}
    (apart : ∀ char, CharClass.isQuote char = true → cls.holds char = false)
    (outside : Outside cls rest) : Outside cls (mark.text ++ rest) := by
  -- Without a mark the text begins with what follows it.
  obtain ⟨text, atMostOne, quote⟩ := mark
  cases text with
  | nil => exact outside
  | cons char later => simpa [Outside] using apart char (quote char List.mem_cons_self)

/-- White space is no character of a class that has none. -/
theorem outside_blank {cls : CharClass} (blank : Text.isBlank stretch = true)
    (apart : ∀ char, isSpace char = true → cls.holds char = false)
    (outside : Outside cls rest) : Outside cls (stretch ++ rest) := by
  -- Without white space the text begins with what follows it.
  cases stretch with
  | nil => exact outside
  | cons char later =>
    simpa [Outside] using apart char (Text.isSpace_of_isBlank blank List.mem_cons_self)

/-- A keyword with white space behind it is passed as a whole. -/
theorem behindKeyword_append (spelling : Spelling name) (gap : Gap)
    (outside : Outside .space rest) :
    behindKeyword name (spelling.text ++ (gap.text ++ rest)) = rest := by
  rw [behindKeyword, ← spelling.length, List.drop_left]
  exact dropWhile_blank gap.blank outside

/-- A name with its marks does not begin with white space. -/
theorem MarkedName.outside_space (marked : MarkedName) :
    Outside .space (marked.text ++ rest) := by
  rw [MarkedName.text, List.append_assoc, List.append_assoc]
  apply marked.opening.outside fun _ => isSpace_of_isQuote
  exact marked.name.outside fun _ => isSpace_of_isWord

/-- A name goes on to the first character that is no word character, and so it is read in one way
only. -/
theorem nameOf_append (marked : MarkedName) (padding : Padding) (rest : Text) :
    nameOf (marked.text ++ (padding.text ++ '(' :: rest)) = marked.name.text ∧
      behindName (marked.text ++ (padding.text ++ '(' :: rest)) = '(' :: rest := by
  -- Behind the name come a mark or none, white space or none, and the parenthesis.
  have space : Outside .space ('(' :: rest) := (by decide : isSpace '(' = false)
  have quote : Outside .quote (padding.text ++ '(' :: rest) :=
    outside_blank padding.blank (fun _ => isQuote_of_isSpace)
      (by decide : CharClass.isQuote '(' = false)
  have boundary : Outside .word (marked.closing.text ++ (padding.text ++ '(' :: rest)) := by
    apply marked.closing.outside fun _ => isWord_of_isQuote
    exact outside_blank padding.blank (fun _ => isWord_of_isSpace) (by decide : isWord '(' = false)
  -- The mark in front is skipped, since the name does not begin with a quote.
  have opening : skipOne .quote (marked.text ++ (padding.text ++ '(' :: rest)) =
      marked.name.text ++ (marked.closing.text ++ (padding.text ++ '(' :: rest)) := by
    rw [MarkedName.text, List.append_assoc, List.append_assoc]
    exact marked.opening.skipOne_append (marked.name.outside fun _ => isQuote_of_isWord)
  constructor
  · have stop : (marked.closing.text ++ (padding.text ++ '(' :: rest)).takeWhile isWord = [] :=
      takeWhile_of_outside boundary
    rw [nameOf, opening, List.takeWhile_append_of_pos (List.all_eq_true.mp marked.name.word),
      stop, List.append_nil]
  · rw [behindName, opening, marked.name.dropWhile boundary,
      marked.closing.skipOne_append quote]
    exact dropWhile_blank padding.blank space

/-- The keywords in front of a name do not begin with a character of another class. -/
theorem Guard.outside (guard : Guard) {cls : CharClass}
    (apart : ∀ char, isWord char = true → cls.holds char = false) :
    Outside cls (guard.text ++ rest) := by
  simp only [Guard.text, List.append_assoc]
  exact guard.ifWord.outside apart

/-- The keywords in front of a name are passed one after another. -/
theorem behindKeyword_guard (guard : Guard) (outside : Outside .space rest) :
    behindKeyword "EXISTS" (behindKeyword "NOT" (behindKeyword "IF" (guard.text ++ rest))) =
      rest := by
  -- Each keyword ends with the white space behind it, where the next one begins.
  have word : ∀ char, isWord char = true → isSpace char = false := fun _ => isSpace_of_isWord
  simp only [Guard.text, List.append_assoc]
  rw [behindKeyword_append _ _ (guard.notWord.outside word),
    behindKeyword_append _ _ (guard.existsWord.outside word), behindKeyword_append _ _ outside]

/-- Taken for a name, the first of the keywords is not followed by a parenthesis. -/
theorem head?_behindName_guard (guard : Guard) (rest : Text) :
    (behindName (guard.text ++ rest)).head? ≠ some '(' := by
  obtain ⟨first, gap, second, secondGap, third, thirdGap⟩ := guard
  obtain ⟨space, more, spaces, blank⟩ := gap.exists_cons
  obtain ⟨letter, letters, spelled⟩ := List.exists_cons_of_ne_nil second.present
  -- Behind the keyword stands white space, and behind that a letter of the next keyword.
  have behind (rest : Text) : behindName (first.text ++ (gap.text ++ (second.text ++ rest))) =
      second.text ++ rest := by
    have word : Outside .word (gap.text ++ (second.text ++ rest)) := by
      rw [spaces]
      exact isWord_of_isSpace blank
    have quote : Outside .quote (gap.text ++ (second.text ++ rest)) := by
      rw [spaces]
      exact isQuote_of_isSpace blank
    have stop : (gap.text ++ (second.text ++ rest)).dropWhile isWord = _ :=
      dropWhile_of_outside word
    rw [behindName, skipOne_of_outside (first.outside fun _ => isQuote_of_isWord),
      List.dropWhile_append_of_pos first.isWord, stop, skipOne_of_outside quote]
    exact dropWhile_blank gap.blank (second.outside fun _ => isSpace_of_isWord)
  simp only [Guard.text, List.append_assoc, behind]
  rw [spelled]
  -- The parenthesis is no letter.
  intro parenthesis
  obtain rfl : letter = '(' := by simpa using parenthesis
  have word := second.isWord '(' (by rw [spelled]; exact List.mem_cons_self)
  exact absurd word (by decide)

/-- What is read behind the keywords of a header: others that may be left out, the name, white space
and the parenthesis. -/
def Header.naming (header : Header) (rest : Text) : Text :=
  header.guardText ++ (header.name.text ++ (header.padding.text ++ '(' :: rest))

/-- A header begins with its two keywords, and what names the table follows. -/
theorem Header.text_append (header : Header) (rest : Text) : header.text ++ rest =
    header.create.text ++ (header.createGap.text ++ (header.table.text ++ (header.tableGap.text ++
      header.naming rest))) := by
  simp [Header.text, Header.front, Header.naming]

/-- What names the table does not begin with white space. -/
theorem Header.outside_naming (header : Header) : Outside .space (header.naming rest) := by
  -- It begins with the name, or with the keywords in front of the name.
  rw [Header.naming, Header.guardText]
  cases header.guard? with
  | none => exact header.name.outside_space
  | some guard => exact guard.outside fun _ => isSpace_of_isWord

/-- Behind the two keywords stands what names the table. -/
theorem Header.behindKeyword_text (header : Header) (rest : Text) :
    behindKeyword "TABLE" (behindKeyword "CREATE" (header.text ++ rest)) = header.naming rest := by
  rw [header.text_append,
    behindKeyword_append _ _ (header.table.outside fun _ => isSpace_of_isWord),
    behindKeyword_append _ _ header.outside_naming]

/-- A text begins with at most one header: all readings have the same name and end at the same
parenthesis. -/
theorem Header.unique {first second : Header} (same : first.text ++ rest = second.text ++ other) :
    first.name.name.text = second.name.name.text ∧ rest = other := by
  -- Without the keywords in front of them, the names and what stands behind them are read alike.
  have plain (same : first.name.text ++ (first.padding.text ++ '(' :: rest) =
      second.name.text ++ (second.padding.text ++ '(' :: other)) :
      first.name.name.text = second.name.name.text ∧ rest = other := by
    obtain ⟨firstName, firstRest⟩ := nameOf_append first.name first.padding rest
    obtain ⟨secondName, secondRest⟩ := nameOf_append second.name second.padding other
    rw [same] at firstName firstRest
    exact ⟨firstName.symm.trans secondName, List.cons.inj (firstRest.symm.trans secondRest) |>.2⟩
  -- A keyword cannot be taken for the name, since no parenthesis stands behind it.
  have apart (guard : Guard) (marked : MarkedName) (padding : Padding) {rest behind : Text} :
      guard.text ++ behind ≠ marked.text ++ (padding.text ++ '(' :: rest) := by
    intro same
    apply head?_behindName_guard guard behind
    rw [same, (nameOf_append marked padding rest).2]
    rfl
  have naming : first.naming rest = second.naming other := by
    rw [← first.behindKeyword_text, same, second.behindKeyword_text]
  rw [Header.naming, Header.naming, Header.guardText, Header.guardText] at naming
  -- Both headers have the keywords in front of their names, or neither has them.
  cases ofFirst : first.guard? with
  | none =>
    cases ofSecond : second.guard? with
    | none =>
      rw [ofFirst, ofSecond] at naming
      exact plain naming
    | some guard =>
      rw [ofFirst, ofSecond] at naming
      exact absurd naming.symm (apart guard first.name first.padding)
  | some guard =>
    cases ofSecond : second.guard? with
    | none =>
      rw [ofFirst, ofSecond] at naming
      exact absurd naming (apart guard second.name second.padding)
    | some others =>
      rw [ofFirst, ofSecond] at naming
      apply plain
      rw [← behindKeyword_guard guard first.name.outside_space,
        ← behindKeyword_guard others second.name.outside_space]
      exact congrArg (fun text => behindKeyword "EXISTS" (behindKeyword "NOT"
        (behindKeyword "IF" text))) naming

/-- White space does not end with a word character. -/
theorem getLast?_append_gap (front : Text) (gap : Gap) :
    (front ++ gap.text).getLast?.any isWord = false := by
  -- Its last character is white space as all of them are.
  obtain ⟨others, last, ends⟩ : ∃ others last, gap.text = others ++ [last] :=
    ⟨_, _, (List.dropLast_concat_getLast gap.present).symm⟩
  have blank : isSpace last = true := Text.isSpace_of_isBlank gap.blank (by simp [ends])
  rw [ends, ← List.append_assoc, List.getLast?_concat]
  exact isWord_of_isSpace blank

/-- A mark does not end with a word character, nor does what it stands behind. -/
theorem getLast?_append_mark {front : Text} (boundary : front.getLast?.any isWord = false)
    (mark : Mark) : (front ++ mark.text).getLast?.any isWord = false := by
  -- The mark is nothing or one quote.
  obtain ⟨text, atMostOne, quote⟩ := mark
  match text, atMostOne, quote with
  | [], _, _ => rwa [List.append_nil]
  | [char], _, quote =>
    rw [List.getLast?_concat]
    exact isWord_of_isQuote (quote char List.mem_cons_self)

/-- The header up to the name. -/
def Header.before (header : Header) : Text :=
  header.create.text ++ header.createGap.text ++ header.table.text ++ header.tableGap.text ++
    header.guardText ++ header.name.opening.text

/-- In front of the name stands white space or a quote. -/
theorem Header.getLast?_before (header : Header) (front : Text) :
    (front ++ header.before).getLast?.any isWord = false := by
  rw [Header.before, ← List.append_assoc]
  -- A quote in front of the name is no word character, and without one there is white space.
  apply getLast?_append_mark
  rw [Header.guardText]
  cases header.guard? with
  | none =>
    rw [Option.elim_none, List.append_nil, ← List.append_assoc]
    exact getLast?_append_gap _ header.tableGap
  | some guard =>
    rw [Option.elim_some, Guard.text, ← List.append_assoc, ← List.append_assoc]
    exact getLast?_append_gap _ guard.existsGap

end Grammar

namespace TableHeader

open Grammar Pattern

variable {text : Text} {found : TableHeader}

/-- The header that is found is the one at the first place where any stands. -/
theorem find?_eq_some_iff : find? text = some found ↔ ∃ place, ∃ header : Header,
    header.text <+: text.drop place ∧
      (∀ earlier < place, ∀ other : Header, ¬other.text <+: text.drop earlier) ∧
      found = ⟨header.name.name.text, place + header.front.length⟩ := by
  -- Where a header stands, the match gives its name and ends behind its parenthesis.
  have given {place : Nat} {found : Match} (matched : pattern.matchStart? (text.drop place) =
      some found) : ∃ header : Header, header.text ++ found.rest = text.drop place ∧
        (⟨found.groupText 0, text.length - found.rest.length - 1⟩ : TableHeader) =
          ⟨header.name.name.text, place + header.front.length⟩ := by
    obtain ⟨stretch, split, described⟩ := describes_of_matchStart? matched
    obtain ⟨header, rfl, names⟩ := exists_header described
    refine ⟨header, split.symm, ?_⟩
    have lengths := congrArg List.length split
    rw [List.length_drop, Header.text, List.length_append, List.length_append,
      List.length_singleton] at lengths
    rw [found.groupText_eq, names]
    congr 1
    omega
  -- At all earlier places the pattern fails, and so no header stands there.
  have none_iff (place : Nat) : pattern.matchStart? (text.drop place) = none ↔
      ∀ other : Header, ¬other.text <+: text.drop place := by
    rw [← Option.not_isSome_iff_eq_none, isSome_matchStart?_iff, matches_header_iff, not_exists]
  rw [find?, Option.map_eq_some_iff]
  constructor
  · intro searched
    obtain ⟨found, searched, rfl⟩ := searched
    obtain ⟨place, matched, none⟩ := search?_eq_some_iff.mp searched
    obtain ⟨header, split, same⟩ := given matched
    exact ⟨place, header, ⟨found.rest, split⟩,
      fun earlier before => (none_iff earlier).mp (none earlier before), same⟩
  · intro stands
    obtain ⟨place, header, ⟨rest, split⟩, none, rfl⟩ := stands
    have some : (pattern.matchStart? (text.drop place)).isSome = true :=
      isSome_matchStart?_iff.mpr (matches_header_iff.mpr ⟨header, rest, split⟩)
    obtain ⟨found, matched⟩ := Option.isSome_iff_exists.mp some
    obtain ⟨other, otherSplit, same⟩ := given matched
    refine ⟨found, search?_eq_some_iff.mpr ⟨place, matched,
      fun earlier before => (none_iff earlier).mpr (none earlier before)⟩, ?_⟩
    -- The match may read the keywords otherwise, but not the name and its end.
    have whole : header.text ++ rest = other.text ++ found.rest := split.trans otherSplit.symm
    obtain ⟨name, rfl⟩ := Header.unique whole
    have lengths := congrArg List.length whole
    rw [same, name]
    simp only [Header.text, List.length_append, List.length_singleton] at lengths
    congr 1
    omega

/-- A header is found when one stands somewhere. -/
theorem isSome_find?_iff : (find? text).isSome = true ↔
    ∃ place, ∃ header : Header, header.text <+: text.drop place := by
  -- Nothing is found only if nothing matches at any place.
  rw [find?, Option.isSome_map, ← Option.ne_none_iff_isSome, ne_eq, search?_eq_none_iff, not_forall]
  refine exists_congr fun place => ?_
  rw [← ne_eq, Option.ne_none_iff_isSome, isSome_matchStart?_iff, matches_header_iff]

/-- No header is found when none stands anywhere. -/
theorem find?_eq_none_iff :
    find? text = none ↔ ∀ place, ∀ header : Header, ¬header.text <+: text.drop place := by
  rw [← Option.not_isSome_iff_eq_none, isSome_find?_iff]
  simp only [not_exists]

/-- The name that is found is a whole word, and the parenthesis behind it stands at the start. -/
theorem exists_split_of_find? (searched : find? text = some found) :
    ∃ (before : Text) (closing : Mark) (padding : Written.Padding) (rest : Text),
      text = before ++ (found.name ++ (closing.text ++ (padding.text ++ '(' :: rest))) ∧
        found.start = (before ++ found.name ++ closing.text ++ padding.text).length ∧
        before.getLast?.any isWord = false ∧
        (closing.text ++ (padding.text ++ '(' :: rest)).head?.any isWord = false := by
  obtain ⟨place, header, ⟨rest, split⟩, -, rfl⟩ := find?_eq_some_iff.mp searched
  -- The text is what stands in front of the header, the header and what is left behind it.
  have whole := (List.take_append_drop place text).symm
  rw [← split] at whole
  refine ⟨text.take place ++ header.before, header.name.closing, header.padding, rest, ?_, ?_,
    header.getLast?_before _, ?_⟩
  · refine whole.trans ?_
    simp [Header.text, Header.front, Header.before, MarkedName.text]
  · -- The place is not beyond the end of the text, where no header stands.
    have lengths := congrArg List.length split
    rw [List.length_drop, Header.text, List.length_append, List.length_append,
      List.length_singleton] at lengths
    have length : (text.take place).length = place := List.length_take_of_le (by omega)
    simp [Header.front, Header.before, MarkedName.text, length]
  · have parenthesis : Outside .word ('(' :: rest) := (by decide : isWord '(' = false)
    exact header.name.closing.outside (fun _ => isWord_of_isQuote)
      (outside_blank header.padding.blank (fun _ => isWord_of_isSpace) parenthesis)

/-- The header that is found ends with a parenthesis. -/
theorem opens_of_find? (searched : find? text = some found) : text[found.start]? = some '(' := by
  obtain ⟨before, closing, padding, rest, split, start, -⟩ := exists_split_of_find? searched
  have whole : text = (before ++ found.name ++ closing.text ++ padding.text) ++ '(' :: rest := by
    rw [split]
    simp
  -- The start counts just what stands in front of the parenthesis.
  rw [start, whole, List.getElem?_append_right (Nat.le_refl _), Nat.sub_self]
  rfl

/-- A header is found exactly in the texts in which one stands somewhere. All headers with which a
text begins have the same name and the same parenthesis, and what is found is the name and the
parenthesis of those at the first place with any. The name is a whole word of the text. -/
theorem header_exact :
    (∀ text, (find? text).isSome = true ↔
      ∃ place, ∃ header : Header, header.text <+: text.drop place) ∧
    (∀ (text : Text) (first second : Header), first.text <+: text → second.text <+: text →
      first.name.name.text = second.name.name.text ∧
        first.front.length = second.front.length) ∧
    (∀ text found, find? text = some found ↔ ∃ place, ∃ header : Header,
      header.text <+: text.drop place ∧
        (∀ earlier < place, ∀ other : Header, ¬other.text <+: text.drop earlier) ∧
        found = ⟨header.name.name.text, place + header.front.length⟩) ∧
    ∀ text found, find? text = some found → text[found.start]? = some '(' ∧
      ∃ (before : Text) (closing : Mark) (padding : Written.Padding) (rest : Text),
        text = before ++ (found.name ++ (closing.text ++ (padding.text ++ '(' :: rest))) ∧
          found.start = (before ++ found.name ++ closing.text ++ padding.text).length ∧
          before.getLast?.any isWord = false ∧
          (closing.text ++ (padding.text ++ '(' :: rest)).head?.any isWord = false := by
  refine ⟨fun text => isSome_find?_iff, ?_, fun text found => find?_eq_some_iff,
    fun text found searched => ⟨opens_of_find? searched, exists_split_of_find? searched⟩⟩
  intro text first second begins beginsToo
  obtain ⟨rest, rfl⟩ := begins
  obtain ⟨other, same⟩ := beginsToo
  -- What is left behind both headers is the same, and so they are of one length.
  obtain ⟨name, rfl⟩ := Header.unique same.symm
  have lengths := congrArg List.length same
  simp only [Header.text, List.length_append, List.length_singleton] at lengths
  exact ⟨name, by omega⟩

/-- A table can have the name of a keyword that may stand in front of the name. -/
theorem header_exact_if :
    ∃ found, find? "drop x; create table IF ('NOT' int)".toList = some found ∧
      found = ⟨"IF".toList, 24⟩ ∧
      "drop x; create table IF ('NOT' int)".toList[found.start]? = some '(' := by
  -- The name looks like a keyword, and a quote stands behind the parenthesis.
  obtain ⟨-, -, -, whole⟩ := header_exact
  have searched : find? "drop x; create table IF ('NOT' int)".toList =
      some ⟨"IF".toList, 24⟩ := by decide +kernel
  exact ⟨_, searched, rfl, (whole _ _ searched).1⟩

end TableHeader

end Ddl
