import Ddl.Proofs.Pattern.Steps

/-! Searches in words that single spaces separate look at the ends and beginnings of words. -/

namespace Ddl

/-- A text of some characters, none of which is white space. -/
structure Solid (text : Text) : Prop where
  /-- The text has a character. -/
  present : text ≠ []
  /-- No character of the text is white space. -/
  spaceless : ∀ char ∈ text, isSpace char = false

namespace Text

/-- The words with a space in front of each of them. -/
def spaced (words : List Text) : Text :=
  words.flatMap fun word => ' ' :: word

/-- No words are written with nothing. -/
@[simp] theorem spaced_nil : spaced [] = [] := rfl

/-- A space is written in front of each word. -/
@[simp] theorem spaced_cons (word : Text) (words : List Text) :
    spaced (word :: words) = ' ' :: (word ++ spaced words) := rfl

/-- Two lists of words are written one after the other. -/
theorem spaced_append (first second : List Text) :
    spaced (first ++ second) = spaced first ++ spaced second := List.flatMap_append

end Text

/-- A text is solid when a look at its characters finds no white space. -/
theorem Solid.of_any {text : Text} (present : text ≠ []) (spaceless : text.any isSpace = false) :
    Solid text :=
  ⟨present, fun char member => by simpa using List.any_eq_false.mp spaceless char member⟩

/-- What begins with a word does not begin with white space. -/
theorem Solid.head {word : Text} (solid : Solid word) (rest : Text) :
    (word ++ rest).head?.any isSpace = false := by
  cases word with
  | nil => exact absurd rfl solid.present
  | cons char later => simpa using solid.spaceless char (by simp)

namespace Pattern

variable {pattern next : Pattern} {word rest : Text} {words : List Text} {name : String}

/-- A keyword in capital letters. -/
def IsKeyword (name : String) : Prop :=
  name ≠ "" ∧ name.toList.all Char.isUpper = true

/-- Letters are looked at one by one to decide whether a name is a keyword. -/
instance (name : String) : Decidable (IsKeyword name) :=
  inferInstanceAs (Decidable (_ ∧ _))

/-- A keyword has letters. -/
theorem IsKeyword.toList_ne_nil (isKeyword : IsKeyword name) : name.toList ≠ [] := by
  intro empty
  exact isKeyword.1 (String.toList_eq_nil_iff.mp empty)

/-- The letters of a keyword are capital ones. -/
theorem IsKeyword.isUpper (isKeyword : IsKeyword name) {letter : Char}
    (member : letter ∈ name.toList) : letter.isUpper = true :=
  List.all_eq_true.mp isKeyword.2 letter member

/-- There is no space in a keyword. -/
theorem IsKeyword.space_not_mem (isKeyword : IsKeyword name) : ' ' ∉ name.toList := by
  intro member
  exact absurd (isKeyword.isUpper member) (by decide)

/-- What has no separator in it stands in front of a separator or behind it. -/
theorem prefix_append_cons_iff {sought front back : List Char} {separator : Char}
    (absent : separator ∉ sought) :
    sought <+: front ++ separator :: back ↔ sought <+: front := by
  constructor
  · intro found
    -- It fits into what stands in front, or it reaches the separator.
    by_cases fits : sought.length ≤ front.length
    · exact List.prefix_of_prefix_length_le found (List.prefix_append _ _) fits
    · -- Otherwise the separator is one of its elements.
      have whole : front ++ [separator] <+: front ++ separator :: back := ⟨back, by simp⟩
      have shorter : (front ++ [separator]).length ≤ sought.length := by
        simp only [List.length_append, List.length_singleton]
        omega
      have inside : front ++ [separator] <+: sought :=
        List.prefix_of_prefix_length_le whole found shorter
      exact absurd (inside.subset (by simp)) absent
  · intro found
    exact found.trans (List.prefix_append _ _)

/-- What a separator does not stand in stands in front of it or behind it. -/
theorem infix_append_cons_iff {sought front back : List Char} {separator : Char}
    (absent : separator ∉ sought) (present : sought ≠ []) :
    sought <:+: front ++ separator :: back ↔ sought <:+: front ∨ sought <:+: back := by
  induction front with
  | nil =>
    rw [List.nil_append, List.infix_cons_iff]
    -- What is sought does not begin with the separator.
    have fails : ¬sought <+: separator :: back := by
      intro found
      have nothing : sought <+: [] := (prefix_append_cons_iff absent).mp found
      exact present (List.prefix_nil.mp nothing)
    simp [fails, present]
  | cons char later ih =>
    rw [List.cons_append, List.infix_cons_iff, ih, List.infix_cons_iff,
      ← List.cons_append, prefix_append_cons_iff absent, or_assoc]

/-- Patterns that match alike at every place are found at the same place. -/
theorem search?_congr {other : Pattern}
    (same : ∀ text, pattern.matchStart? text = other.matchStart? text) (text : Text) :
    pattern.search? text = other.search? text := by
  induction text with
  | nil => exact same []
  | cons char rest ih => rw [search?, search?, same, ih]

/-- A match at the beginning is the one that is found. -/
theorem search?_of_matchStart? {text : Text} {found : Match}
    (matched : pattern.matchStart? text = some found) : pattern.search? text = some found := by
  cases text with
  | nil => exact matched
  | cons char rest => rw [search?, matched]

/-- A keyword occurs where its letters stand in a row. -/
theorem occursIn_keyword_iff {text : Text} :
    (keyword name).occursIn text = true ↔ name.toList <:+: text.folded := by
  have here : ∀ text : Text, ((keyword name).matchStart? text).isSome = true ↔
      name.toList <+: text.folded := by
    intro text
    rw [matchStart?, firstMatch?_keyword_alone]
    split <;> simp [*]
  induction text with
  | nil =>
    rw [occursIn, search?, here, Text.folded_nil, List.prefix_nil, List.infix_nil]
  | cons char rest ih =>
    rw [Text.folded_cons, List.infix_cons_iff, ← Text.folded_cons, ← here, occursIn, search?]
    -- The keyword stands here, or it is looked for further on.
    cases (keyword name).matchStart? (char :: rest) with
    | some found => simp
    | none => simpa [occursIn] using ih

/-- A space stays a space. -/
@[simp] theorem folded_space (rest : Text) :
    Text.folded (' ' :: rest) = ' ' :: rest.folded := by
  rw [Text.folded_cons]
  congr 1

/-- What has no space in it stands in one of the words when it stands in them at all. -/
theorem infix_spaced_iff {sought : List Char} (spaceless : ' ' ∉ sought) (present : sought ≠ []) :
    sought <:+: word ++ Text.spaced words ↔ ∃ part ∈ word :: words, sought <:+: part := by
  -- A space stands behind the first word, and separates it from the others.
  induction words generalizing word with
  | nil => simp
  | cons second later ih =>
    rw [Text.spaced_cons, infix_append_cons_iff spaceless present, ih]
    simp

/-- Words are folded one by one. -/
theorem folded_spaced (words : List Text) :
    (Text.spaced words).folded = Text.spaced (words.map Text.folded) := by
  -- The space in front of each word stays, and the word is folded.
  induction words with
  | nil => rfl
  | cons word later ih =>
    rw [Text.spaced_cons, folded_space, Text.folded_append, ih, List.map_cons, Text.spaced_cons]

/-- A keyword occurs in words when one of them has it. -/
theorem infix_folded_spaced_iff (isKeyword : IsKeyword name) :
    name.toList <:+: (word ++ Text.spaced words).folded ↔
      ∃ part ∈ word :: words, name.toList <:+: part.folded := by
  rw [Text.folded_append, folded_spaced,
    infix_spaced_iff isKeyword.space_not_mem isKeyword.toList_ne_nil]
  simp

/-- White space is taken as a whole when it is a single space. -/
theorem firstMatch?_spaces_single {accept : Match → Option Match}
    (single : rest.head?.any isSpace = false) :
    (spaces ++ next).firstMatch? (' ' :: rest) accept = next.firstMatch? rest accept := by
  -- Behind the space no more white space stands.
  have none :
      CharClass.lastStop? .space (fun stop => next.firstMatch? stop accept) rest = none := by
    cases rest with
    | nil => rfl
    | cons char later =>
      have outside : isSpace char = false := by simpa using single
      have outside : CharClass.holds .space char = false := outside
      simp [CharClass.lastStop?, outside]
  have space : CharClass.holds .space ' ' = true := by decide
  show CharClass.lastStop? .space (fun stop => next.firstMatch? stop accept) (' ' :: rest) = _
  rw [CharClass.lastStop?, if_pos space, none]

/-- A keyword that white space follows matches at the end of a word, or not in the word at all. -/
theorem matchStart?_keyword_spaces (isKeyword : IsKeyword name)
    (spaceless : ∀ char ∈ word, isSpace char = false) (single : rest.head?.any isSpace = false) :
    (keyword name ++ (spaces ++ next)).matchStart? (word ++ ' ' :: rest) =
      if name.toList = word.folded then next.matchStart? rest else none := by
  -- The keyword is the whole word, a part of it, or not there at all.
  rw [matchStart?, firstMatch?_keyword, Text.folded_append, folded_space]
  by_cases same : name.toList = word.folded
  · have length : name.length = word.length := by
      rw [← String.length_toList, same, Text.length_folded]
    rw [if_pos same, if_pos (by simp [same]), length, List.drop_left,
      firstMatch?_spaces_single single]
    rfl
  · rw [if_neg same]
    split
    · rename_i found
      -- The keyword would end inside of the word, where no white space stands.
      have inside := (prefix_append_cons_iff isKeyword.space_not_mem).mp found
      have shorter : name.length < word.length := by
        have bound := inside.length_le
        have different : name.toList.length ≠ word.folded.length := fun length =>
          same (inside.eq_of_length length)
        rw [Text.length_folded] at bound different
        rw [← String.length_toList]
        omega
      rw [List.drop_append_of_le_length shorter.le]
      refine firstMatch?_eq_none (by simp [spaces, mayBeEmpty]) ?_
      rw [List.drop_eq_getElem_cons shorter, List.cons_append, mayMatch_cons]
      simp [spaces, mayBegin, mayBeEmpty, CharClass.holds, spaceless _ (List.getElem_mem shorter)]
    · rfl

/-- Such a keyword is not found in a last word. -/
theorem search?_keyword_spaces_last (spaceless : ∀ char ∈ word, isSpace char = false) :
    (keyword name ++ (spaces ++ next)).search? word = none := by
  have none : ∀ text : Text, (∀ char ∈ text, isSpace char = false) →
      (keyword name ++ (spaces ++ next)).matchStart? text = none := by
    intro text spaceless
    rw [matchStart?, firstMatch?_keyword]
    split
    · refine firstMatch?_eq_none (by simp [spaces, mayBeEmpty]) ?_
      -- White space is neither at the end of the text nor among its characters.
      cases left : text.drop name.length with
      | nil => rfl
      | cons char rest =>
        have member : char ∈ text := List.mem_of_mem_drop (left ▸ List.mem_cons_self)
        simp [mayMatch_cons, spaces, mayBegin, mayBeEmpty, CharClass.holds, spaceless char member]
    · rfl
  -- So the search fails at each of the word's places.
  induction word with
  | nil => exact none [] spaceless
  | cons char rest ih =>
    rw [search?, none (char :: rest) spaceless]
    exact ih fun char member => spaceless char (List.mem_cons_of_mem _ member)

/-- Such a keyword is found in words at the end of the first one, or else in the words after it. -/
theorem search?_keyword_spaces (isKeyword : IsKeyword name)
    (spaceless : ∀ char ∈ word, isSpace char = false) (single : rest.head?.any isSpace = false) :
    (keyword name ++ (spaces ++ next)).search? (word ++ ' ' :: rest) =
      (if name.toList <:+ word.folded then next.matchStart? rest else none).or
        ((keyword name ++ (spaces ++ next)).search? rest) := by
  -- The keyword is looked for at each character of the word.
  induction word with
  | nil =>
    have here : (keyword name ++ (spaces ++ next)).matchStart? ([] ++ ' ' :: rest) = _ :=
      matchStart?_keyword_spaces isKeyword (by simp) single
    rw [if_neg (by simpa using isKeyword.toList_ne_nil), List.nil_append] at here
    rw [List.nil_append, search?, here, if_neg (by simpa using isKeyword.toList_ne_nil)]
    rfl
  | cons char later ih =>
    rw [List.forall_mem_cons] at spaceless
    have here :
        (keyword name ++ (spaces ++ next)).matchStart? ((char :: later) ++ ' ' :: rest) = _ :=
      matchStart?_keyword_spaces isKeyword (by simpa using spaceless) single
    rw [List.cons_append] at here ⊢
    rw [search?, here, ih spaceless.2]
    by_cases same : name.toList = Text.folded (char :: later)
    · -- The keyword is then too long for the rest of the word.
      have tooLong : ¬name.toList <:+ Text.folded later := by
        intro found
        have bound := found.length_le
        rw [same, Text.length_folded, Text.length_folded, List.length_cons] at bound
        omega
      have whole : name.toList <:+ Text.folded (char :: later) := same ▸ List.suffix_refl _
      rw [if_pos same, if_pos whole, if_neg tooLong]
      cases next.matchStart? rest <;> rfl
    · -- Otherwise only what follows the first character can end with the keyword.
      have onward : name.toList <:+ Text.folded (char :: later) ↔
          name.toList <:+ Text.folded later := by
        rw [Text.folded_cons] at same ⊢
        rw [List.suffix_cons_iff]
        simp [same]
      rw [if_neg same]
      simp only [onward]

/-- The search for a keyword at the end of a word, after which a match goes on with the next one. -/
def wordSearch? (name : String) (next : Pattern) : List Text → Option Match
  | word :: second :: later =>
    (if name.toList <:+ word.folded then next.matchStart? (second ++ Text.spaced later)
      else none).or (wordSearch? name next (second :: later))
  | _ => none

/-- In words a keyword that white space follows is looked for at the end of each word. -/
theorem search?_spaced (isKeyword : IsKeyword name) (solid : ∀ part ∈ word :: words, Solid part) :
    (keyword name ++ (spaces ++ next)).search? (word ++ Text.spaced words) =
      wordSearch? name next (word :: words) := by
  induction words generalizing word with
  | nil =>
    rw [Text.spaced_nil, List.append_nil]
    exact search?_keyword_spaces_last (solid word List.mem_cons_self).spaceless
  | cons second later ih =>
    rw [List.forall_mem_cons] at solid
    -- The second word shows that the space before it is a single one.
    have single := (solid.2 second List.mem_cons_self).head (Text.spaced later)
    rw [wordSearch?, ← ih solid.2]
    exact search?_keyword_spaces isKeyword solid.1.spaceless single

/-- A word is passed when it does not end with the keyword, or the match cannot go on after it. -/
theorem wordSearch?_cons (fails : name.toList <:+ word.folded → ∀ second later,
      words = second :: later → next.matchStart? (second ++ Text.spaced later) = none) :
    wordSearch? name next (word :: words) = wordSearch? name next words := by
  -- Without a second word nothing is found in both.
  cases words with
  | nil => rfl
  | cons second later =>
    rw [wordSearch?]
    split
    · rename_i ends
      rw [fails ends second later rfl, Option.none_or]
    · rw [Option.none_or]

/-- Words that do not end with the keyword are passed. -/
theorem wordSearch?_append {front : List Text}
    (absent : ∀ word ∈ front, ¬name.toList <:+ word.folded) :
    wordSearch? name next (front ++ words) = wordSearch? name next words := by
  -- They are passed one after another.
  induction front with
  | nil => rfl
  | cons word later ih =>
    rw [List.forall_mem_cons] at absent
    rw [List.cons_append, wordSearch?_cons fun ends => absurd ends absent.1, ih absent.2]

/-- The search ends at a word that ends with the keyword, if the match goes on with the next one. -/
theorem wordSearch?_found {second : Text} {found : Match} (ends : name.toList <:+ word.folded)
    (goesOn : next.matchStart? (second ++ Text.spaced words) = some found) :
    wordSearch? name next (word :: second :: words) = some found := by
  rw [wordSearch?, if_pos ends, goesOn, Option.some_or]

/-- Some word ends with the first keyword, and the word after it begins with the second one. -/
def Follows (first second : String) : List Text → Prop
  | word :: next :: later =>
    (first.toList <:+ word.folded ∧ second.toList <+: next.folded) ∨
      Follows first second (next :: later)
  | _ => False

/-- At the beginning of words a keyword occurs when the first word begins with it. -/
theorem isSome_matchStart?_keyword (isKeyword : IsKeyword name) (words : List Text) :
    ((keyword name).matchStart? (word ++ Text.spaced words)).isSome = true ↔
      name.toList <+: word.folded := by
  -- A keyword has no space in it and so stays in the first word.
  have inWord : name.toList <+: (word ++ Text.spaced words).folded ↔
      name.toList <+: word.folded := by
    cases words with
    | nil => simp
    | cons other rest =>
      rw [Text.spaced_cons, Text.folded_append, folded_space]
      exact prefix_append_cons_iff isKeyword.space_not_mem
  rw [matchStart?, firstMatch?_keyword_alone, ← inWord]
  split
  · rename_i found
    exact iff_of_true rfl found
  · rename_i missing
    exact iff_of_false (by simp) missing

/-- Two keywords occur one after the other where one word ends and another begins with them. -/
theorem occursIn_keywords_iff {first second : String} (isFirst : IsKeyword first)
    (isSecond : IsKeyword second) (solid : ∀ part ∈ word :: words, Solid part) :
    (keyword first ++ spaces ++ keyword second).occursIn (word ++ Text.spaced words) = true ↔
      Follows first second (word :: words) := by
  have same : ∀ text, (keyword first ++ spaces ++ keyword second).search? text =
      (keyword first ++ (spaces ++ keyword second)).search? text :=
    search?_congr fun text => firstMatch?_assoc _ _ _
  -- At each word the search asks for the end of this one and for the beginning of the next one.
  have pairs : ∀ words, (wordSearch? first (keyword second) words).isSome = true ↔
      Follows first second words := by
    intro words
    induction words with
    | nil => simp [wordSearch?, Follows]
    | cons word later ih =>
      cases later with
      | nil => simp [wordSearch?, Follows]
      | cons next rest =>
        rw [wordSearch?, Follows, Option.isSome_or, Bool.or_eq_true,
          ← isSome_matchStart?_keyword isSecond rest]
        -- Either the pair is here, or the rest has it.
        refine or_congr ?_ ih
        split <;> simp [*]
  rw [occursIn, same, search?_spaced isFirst solid, pairs]

end Pattern

end Ddl
