import Ddl.Proofs.Text.Chars
import Ddl.Script.Statements

/-! A script is made of white space, comments, quoted literals, semicolons and other tokens, and the
scan finds the only way in which it can be made of them. -/

namespace Ddl

namespace CommentStyle

/-- The characters that open a comment of the style. -/
def opening : CommentStyle → Text
  | plain => ['/', '*']
  | hint => ['/', '*', '+']
  | template => ['{', '#']

/-- What stands behind the opening of a comment up to the end of its close, with a number of
comments around the innermost one. -/
inductive Rest (style : CommentStyle) : Nat → Text → Prop
  /-- The close of the comment around all others is its end. -/
  | close {first second : Char} (closes : style.isClose first second = true) :
    Rest style 0 [first, second]
  /-- A character that neither closes a comment nor stands in front of another opening. -/
  | pass {around : Nat} {first second third : Char} {later : Text}
    (inside : style.isClose first second = false) (same : style.isOpen second third = false)
    (rest : Rest style around (second :: third :: later)) :
    Rest style around (first :: second :: third :: later)
  /-- The first character of the close of an inner comment. -/
  | leave {around : Nat} {first second third : Char} {later : Text}
    (closes : style.isClose first second = true) (same : style.isOpen second third = false)
    (rest : Rest style around (second :: third :: later)) :
    Rest style (around + 1) (first :: second :: third :: later)
  /-- A character in front of the opening of an inner comment. -/
  | enter {around : Nat} {first second third : Char} {later : Text}
    (inside : style.isClose first second = false) (opens : style.isOpen second third = true)
    (rest : Rest style (around + 1) later) :
    Rest style around (first :: second :: third :: later)
  /-- The close of an inner comment, whose last character belongs to the opening of the next one. -/
  | renew {around : Nat} {first second third : Char} {later : Text}
    (closes : style.isClose first second = true) (opens : style.isOpen second third = true)
    (rest : Rest style (around + 1) later) :
    Rest style (around + 1) (first :: second :: third :: later)

variable {style : CommentStyle} {around : Nat} {text inside after : Text}

/-- The close at the end of a comment has two characters. -/
theorem Rest.exists_cons (rest : style.Rest around text) :
    ∃ first second later, text = first :: second :: later := by
  cases rest <;> exact ⟨_, _, _, rfl⟩

/-- A split finds the rest of a comment. -/
theorem rest_of_split? (found : style.split? around text = some (inside, after)) :
    style.Rest around inside := by
  -- Each case of the split is a constructor, or finds nothing.
  fun_induction split? style around text generalizing inside with
  | case1 around first second rest closes =>
    simp only [Option.some.injEq, Prod.mk.injEq] at found
    obtain ⟨rfl, rfl⟩ := found
    simp only [Bool.and_eq_true, beq_iff_eq] at closes
    obtain ⟨closes, rfl⟩ := closes
    exact .close closes
  | case2 => simp at found
  | case3 =>
    rename_i around first second goesOn reached third later opens ih
    simp only [Option.map_eq_some_iff, Prod.mk.injEq] at found
    obtain ⟨⟨inner, rest⟩, split, rfl, rfl⟩ := found
    have rest := ih split
    -- A close here is one of an inner comment, since the outermost one goes on.
    cases closes : style.isClose first second with
    | false => exact .enter closes opens (by simpa [reached, closes] using rest)
    | true =>
      obtain _ | around := around
      · simp [closes] at goesOn
      · exact .renew closes opens (by simpa [reached, closes] using rest)
  | case4 =>
    rename_i around first second goesOn reached third later same ih
    simp only [Option.map_eq_some_iff, Prod.mk.injEq] at found
    obtain ⟨⟨inner, after⟩, split, rfl, rfl⟩ := found
    have rest := ih split
    have parts := Lexeme.append_of_split? split
    -- The next two characters are looked at before the first of them is left behind.
    obtain ⟨_, _, inner, rfl⟩ := rest.exists_cons
    obtain ⟨rfl, rfl, rfl⟩ : second = _ ∧ third = _ ∧ later = inner ++ after := by
      simpa using parts
    rw [Bool.not_eq_true] at same
    cases closes : style.isClose first second with
    | false => exact .pass closes same (by simpa [reached, closes] using rest)
    | true =>
      obtain _ | around := around
      · simp [closes] at goesOn
      · exact .leave closes same (by simpa [reached, closes] using rest)
  | case5 => simp at found

/-- The rest of a comment is found whatever stands behind it. -/
theorem split?_of_rest (rest : style.Rest around inside) (after : Text) :
    style.split? around (inside ++ after) = some (inside, after) := by
  -- Each constructor is the case of the split that its first two characters lead to.
  induction rest with
  | close closes => simp [split?, closes]
  | pass inside same rest ih =>
    simp only [List.cons_append] at ih ⊢
    rw [split?]
    simp [inside, same, ih]
  | leave closes same rest ih =>
    simp only [List.cons_append] at ih ⊢
    rw [split?]
    simp [closes, same, ih]
  -- What follows an opening is split with one comment more around it.
  | enter inside opens rest ih =>
    simp only [List.cons_append]
    rw [split?]
    simp [inside, opens, ih]
  | renew closes opens rest ih =>
    simp only [List.cons_append]
    rw [split?]
    simp [closes, opens, ih]

end CommentStyle

/-- A comment, with the text that stands behind it. -/
inductive IsComment : Text → Text → Prop
  /-- Two hyphens and the rest of their line. -/
  | line {words after : Text} (inside : ∀ char ∈ words, Lexeme.endsLine char = false)
    (ends : ∀ char ∈ after.head?, Lexeme.endsLine char = true) :
    IsComment ('-' :: '-' :: words) after
  /-- An opening and everything up to the close that belongs to it. -/
  | block {style : CommentStyle} {inside after : Text} (rest : style.Rest 0 inside)
    (apart : style = .plain → inside.head? ≠ some '+') :
    IsComment (style.opening ++ inside) after

/-- The text as it is written between marks, where each mark in it is written twice. -/
def doubled (mark : Char) (text : Text) : Text :=
  text.flatMap fun char => if char = mark then [mark, mark] else [char]

/-- A quoted literal, with the text that stands behind it. -/
inductive IsLiteral : Text → Text → Prop
  /-- A text between two marks, of which the second one is not written twice. -/
  | quoted {mark : Char} {text after : Text} (quote : CharClass.isQuote mark = true)
    (ends : after.head? ≠ some mark) : IsLiteral (mark :: (doubled mark text ++ [mark])) after

namespace Lexeme

/-- The three characters that make up one token, so that none of them belongs to a comment. -/
def markers : List Text :=
  [['-', '|', '-'], ['{', '{', '-'], ['{', '%', '-']]

/-- The texts in front of which a lexeme is more than its first character or ends a statement. -/
def openings : List Text :=
  markers ++ [['-', '-'], ['/', '*'], ['{', '#'], ['"'], ['\''], [';']]

/-- A lexeme can stand in front of a text. -/
inductive Stands : Lexeme → Text → Prop
  | space {char : Char} {after : Text} (blank : isSpace char = true) : Stands (space char) after
  | comment {text after : Text} (isComment : IsComment text after) : Stands (comment text) after
  | semicolon {after : Text} : Stands semicolon after
  | literal {text after : Text} (isLiteral : IsLiteral text after) : Stands (token text) after
  | marker {text after : Text} (among : text ∈ markers) : Stands (token text) after
  /-- A character that begins none of the other lexemes is a token by itself. -/
  | other {char : Char} {after : Text} (solid : isSpace char = false)
    (plain : ∀ opening ∈ openings, ¬opening <+: char :: after) : Stands (token [char]) after

variable {mark char : Char} {text inside rest after : Text} {lexeme : Lexeme}

/-- The first character is written twice when it is the mark. -/
theorem doubled_cons (mark char : Char) (text : Text) : doubled mark (char :: text) =
    (if char = mark then [mark, mark] else [char]) ++ doubled mark text :=
  List.flatMap_cons

/-- A split ends with the first mark that is not written twice. -/
theorem eq_doubled_of_splitQuoted (found : splitQuoted mark text = .ok (inside, after)) :
    ∃ content, inside = doubled mark content ++ [mark] ∧ after.head? ≠ some mark := by
  -- The content is gathered from the cases that go on.
  fun_induction splitQuoted mark text generalizing inside with
  | case1 => simp at found
  | case2 =>
    simp only [Except.ok.injEq, Prod.mk.injEq] at found
    obtain ⟨rfl, rfl⟩ := found
    exact ⟨[], rfl, by simp⟩
  | case3 => simp at found
  | case4 => simp at found
  -- Two marks are one mark of the content.
  | case5 rest present ih =>
    obtain ⟨⟨inner, after⟩, split, same⟩ := ok_of_map found
    simp only [Prod.mk.injEq] at same
    obtain ⟨rfl, rfl⟩ := same
    obtain ⟨content, rfl, ends⟩ := ih split
    exact ⟨mark :: content, by simp [doubled_cons], ends⟩
  | case6 second rest other =>
    simp only [Except.ok.injEq, Prod.mk.injEq] at found
    obtain ⟨rfl, rfl⟩ := found
    exact ⟨[], rfl, by simpa using other⟩
  | case7 first second rest other ih =>
    obtain ⟨⟨inner, after⟩, split, same⟩ := ok_of_map found
    simp only [Prod.mk.injEq] at same
    obtain ⟨rfl, rfl⟩ := same
    obtain ⟨content, rfl, ends⟩ := ih split
    exact ⟨first :: content, by simp [doubled_cons, other], ends⟩

/-- A character that is not the mark belongs to what is quoted. -/
theorem splitQuoted_cons_of_ne (other : char ≠ mark) : splitQuoted mark (char :: rest) =
    (splitQuoted mark rest).map fun (inside, after) => (char :: inside, after) := by
  cases rest with
  | nil => simp [splitQuoted, other, Except.map]
  | cons second later => simp [splitQuoted, other]

/-- A literal is found when its closing mark is not written twice. -/
theorem splitQuoted_doubled (ends : after.head? ≠ some mark) (content : Text) :
    splitQuoted mark (doubled mark content ++ [mark] ++ after) =
      .ok (doubled mark content ++ [mark], after) := by
  -- The content is read character by character, up to the mark behind it.
  induction content with
  | nil =>
    cases after with
    | nil => simp [doubled, splitQuoted]
    | cons char later =>
      have other : char ≠ mark := by simpa using ends
      simp [doubled, splitQuoted, other]
  | cons char content ih =>
    rw [doubled_cons]
    by_cases same : char = mark
    · -- A mark that is written twice does not end the literal, which goes on behind it.
      subst same
      simp only [List.append_assoc, List.cons_append, List.nil_append, if_true] at ih ⊢
      rw [splitQuoted, if_pos rfl, if_pos rfl, if_neg (by simp), ih]
      rfl
    · simp only [if_neg same, List.cons_append, List.nil_append]
      rw [splitQuoted_cons_of_ne same, ih]
      rfl

/-- A comment that is found stands there as one. -/
theorem stands_of_ofComment (style : CommentStyle)
    (apart : style = .plain → rest.head? ≠ some '+')
    (found : ofComment style style.opening rest = .ok (lexeme, after)) : lexeme.Stands after := by
  -- What was split off is the rest of a comment, and only a plain one depends on what comes next.
  unfold ofComment at found
  split at found
  · rename_i inside after split
    simp only [Except.ok.injEq, Prod.mk.injEq] at found
    obtain ⟨rfl, rfl⟩ := found
    have isRest := CommentStyle.rest_of_split? split
    refine .comment (.block isRest fun plain => ?_)
    have same := apart plain
    obtain ⟨first, second, later, rfl⟩ := isRest.exists_cons
    rwa [append_of_split? split] at same
  · simp at found

/-- A quoted token that is found stands there as a literal. -/
theorem stands_of_ofQuote (quote : CharClass.isQuote mark = true)
    (found : ofQuote mark rest = .ok (lexeme, after)) : lexeme.Stands after := by
  -- What was split off is a content with its marks doubled, and the mark that ends it.
  unfold ofQuote at found
  split at found
  · simp at found
  · obtain ⟨⟨inside, after⟩, split, same⟩ := ok_of_map found
    simp only [Prod.mk.injEq] at same
    obtain ⟨rfl, rfl⟩ := same
    obtain ⟨content, rfl, ends⟩ := eq_doubled_of_splitQuoted split
    exact .literal (.quoted quote ends)

/-- A lexeme that is found can stand where it is found. -/
theorem stands_of_next (found : next char rest = .ok (lexeme, after)) : lexeme.Stands after := by
  -- Each case of the definition is a kind of lexeme that can stand there.
  unfold next at found
  split at found
  case h_4 => exact stands_of_ofComment .hint (by simp) found
  case h_5 =>
    rename_i rest notHint
    refine stands_of_ofComment .plain (fun _ plus => ?_) found
    obtain ⟨later, rfl⟩ := List.head?_eq_some_iff.mp plus
    exact notHint later rfl
  case h_6 => exact stands_of_ofComment .template (by simp) found
  case h_9 => exact stands_of_ofQuote (by decide) found
  case h_10 => exact stands_of_ofQuote (by decide) found
  case h_11 =>
    split at found
    -- A character by itself is white space, or it begins nothing else.
    · rename_i blank
      simp only [Except.ok.injEq, Prod.mk.injEq] at found
      obtain ⟨rfl, rfl⟩ := found
      exact .space blank
    · rename_i solid
      simp only [Except.ok.injEq, Prod.mk.injEq] at found
      obtain ⟨rfl, rfl⟩ := found
      refine .other (by simpa using solid) ?_
      -- Each opening has been looked for before.
      rintro opening member ⟨more, same⟩
      simp only [openings, markers, List.mem_append, List.mem_cons, List.not_mem_nil, or_false]
        at member
      rcases member with (rfl | rfl | rfl) | rfl | rfl | rfl | rfl | rfl | rfl <;>
        simp only [List.cons_append, List.nil_append, List.cons.injEq] at same <;>
        obtain ⟨rfl, rfl⟩ := same <;> simp_all
  -- A line comment goes up to the line's end.
  case h_2 =>
    rename_i rest
    simp only [Except.ok.injEq, Prod.mk.injEq] at found
    obtain ⟨rfl, rfl⟩ := found
    refine .comment (.line ?_ ?_)
    · intro char member
      simpa using List.all_eq_true.mp List.all_takeWhile char member
    · intro char first
      have stops := List.head?_dropWhile_not (!endsLine ·) rest
      rw [Option.mem_def.mp first] at stops
      simpa using stops
  case h_1 =>
    simp only [Except.ok.injEq, Prod.mk.injEq] at found
    obtain ⟨rfl, rfl⟩ := found
    exact .semicolon
  -- The other openings are markers.
  all_goals
    simp only [Except.ok.injEq, Prod.mk.injEq] at found
    obtain ⟨rfl, rfl⟩ := found
    exact .marker (by simp [markers])

/-- The rest of a comment makes a comment, whatever stands behind it. -/
theorem ofComment_of_rest {style : CommentStyle} (rest : style.Rest 0 inside)
    (opening after : Text) : ofComment style opening (inside ++ after) =
      .ok (comment (opening ++ inside), after) := by
  simp [ofComment, CommentStyle.split?_of_rest rest]

/-- A content with its marks doubled makes a quoted token, if no mark stands behind it. -/
theorem ofQuote_doubled (ends : after.head? ≠ some mark) (content : Text) :
    ofQuote mark (doubled mark content ++ [mark] ++ after) =
      .ok (token (mark :: (doubled mark content ++ [mark])), after) := by
  rw [ofQuote, if_neg (by simp), splitQuoted_doubled ends]
  rfl

/-- The rest of a line is found up to the character that ends it. -/
theorem next_line (inside : ∀ char ∈ text, endsLine char = false)
    (ends : ∀ char ∈ after.head?, endsLine char = true) :
    next '-' ('-' :: (text ++ after)) = .ok (comment ('-' :: '-' :: text), after) := by
  have goesOn : ∀ char ∈ text, (!endsLine char) = true := by simpa using inside
  -- Behind the words there is nothing more of the line.
  have stops : after.takeWhile (!endsLine ·) = [] ∧ after.dropWhile (!endsLine ·) = after := by
    cases after with
    | nil => simp
    | cons char later => simp [ends char (by simp)]
  rw [next, List.takeWhile_append_of_pos goesOn, List.dropWhile_append_of_pos goesOn, stops.1,
    stops.2, List.append_nil]

/-- A comment that stands at a place is found there. -/
theorem next_of_isComment (isComment : IsComment text after) (here : char :: rest = text ++ after) :
    next char rest = .ok (comment text, after) := by
  -- The opening of each style of comment leads to its own case.
  cases isComment with
  | line inside ends =>
    obtain ⟨rfl, rfl⟩ : char = _ ∧ rest = _ := by simpa using here
    exact next_line inside ends
  | @block style inside _ rest apart =>
    cases style with
    | plain =>
      obtain ⟨rfl, rfl⟩ : char = _ ∧ _ = _ := by simpa [CommentStyle.opening] using here
      rw [next, ofComment_of_rest rest]
      · rfl
      · -- The opening with a plus sign is another one.
        obtain ⟨first, second, later, rfl⟩ := rest.exists_cons
        intro later same
        simp_all
    | hint =>
      obtain ⟨rfl, rfl⟩ : char = _ ∧ _ = _ := by simpa [CommentStyle.opening] using here
      exact ofComment_of_rest rest _ _
    | template =>
      obtain ⟨rfl, rfl⟩ : char = _ ∧ _ = _ := by simpa [CommentStyle.opening] using here
      exact ofComment_of_rest rest _ _

/-- A literal that stands at a place is found there. -/
theorem next_of_isLiteral (isLiteral : IsLiteral text after) (here : char :: rest = text ++ after) :
    next char rest = .ok (token text, after) := by
  -- There are two marks, and each of them leads to its own case.
  cases isLiteral with
  | quoted quote ends =>
    obtain ⟨rfl, rfl⟩ : char = _ ∧ rest = _ := by simpa using here
    rcases isQuote_iff.mp quote with rfl | rfl
    · simpa [next] using ofQuote_doubled ends _
    · simpa [next] using ofQuote_doubled ends _

/-- A lexeme that can stand at a place is found there. -/
theorem next_of_stands (stands : lexeme.Stands after) (here : char :: rest = lexeme.text ++ after) :
    next char rest = .ok (lexeme, after) := by
  -- Each kind of lexeme begins with what is looked for in its case.
  cases stands with
  | space blank =>
    obtain ⟨rfl, rfl⟩ : char = _ ∧ rest = _ := by simpa [text] using here
    unfold next
    split
    case h_11 => exact if_pos blank
    all_goals exact absurd blank (by decide)
  | comment isComment => exact next_of_isComment isComment here
  | semicolon =>
    obtain ⟨rfl, rfl⟩ : char = _ ∧ rest = _ := by simpa [text] using here
    rfl
  | literal isLiteral => exact next_of_isLiteral isLiteral here
  | marker among =>
    simp only [markers, List.mem_cons, List.not_mem_nil, or_false] at among
    rcases among with rfl | rfl | rfl <;>
    · obtain ⟨rfl, rfl⟩ : char = _ ∧ rest = _ := by simpa [text] using here
      rfl
  | other solid plain =>
    obtain ⟨rfl, rfl⟩ : char = _ ∧ rest = _ := by simpa [text] using here
    unfold next
    split
    case h_11 => exact if_neg (by simp [solid])
    -- What the scan tries before are openings, and none of them stands here.
    all_goals simp [openings, markers] at plain

/-- Lexemes that can stand in front of each other. -/
def Fits : List Lexeme → Prop
  | [] => True
  | lexeme :: later => lexeme.Stands (later.flatMap Lexeme.text) ∧ Fits later

/-- The empty list of lexemes fits. -/
@[simp] theorem fits_nil : Fits [] := trivial

/-- Lexemes fit when the first one stands in front of the others, which fit. -/
@[simp] theorem fits_cons {later : List Lexeme} :
    Fits (lexeme :: later) ↔ lexeme.Stands (later.flatMap Lexeme.text) ∧ Fits later := Iff.rfl

/-- Nothing is scanned to no lexemes. -/
@[simp] theorem scan_nil : scan [] = .ok [] := by rw [scan]

/-- A scan finds a first lexeme and goes on behind it. -/
theorem scan_cons (char : Char) (rest : Text) : scan (char :: rest) =
    match next char rest with
    | .error fault => .error fault
    | .ok (lexeme, after) => (scan after).map (lexeme :: ·) := by
  rw [scan]
  split <;> simp_all

/-- A lexeme that stands somewhere has a first character. -/
theorem Stands.exists_cons (stands : lexeme.Stands after) :
    ∃ char more, lexeme.text = char :: more := by
  -- All kinds of lexemes are written with one character at least.
  cases stands with
  | comment isComment =>
    cases isComment with
    | line inside ends => exact ⟨_, _, rfl⟩
    | @block style _ _ rest apart => cases style <;> exact ⟨_, _, rfl⟩
  | literal isLiteral =>
    cases isLiteral with
    | quoted quote ends => exact ⟨_, _, rfl⟩
  | marker among =>
    simp only [markers, List.mem_cons, List.not_mem_nil, or_false] at among
    rcases among with rfl | rfl | rfl <;> exact ⟨_, _, rfl⟩
  | _ => exact ⟨_, _, rfl⟩

/-- The scan takes off a lexeme and goes on with the text behind it. -/
theorem scan_text_append (stands : lexeme.Stands after) :
    scan (lexeme.text ++ after) = (scan after).map (lexeme :: ·) := by
  -- The lexeme is the one that is found at its first character.
  obtain ⟨char, more, begins⟩ := stands.exists_cons
  have found : next char (more ++ after) = .ok (lexeme, after) :=
    next_of_stands stands (by rw [begins, List.cons_append])
  rw [begins, List.cons_append, scan_cons, found]

/-- Lexemes that fit are found in the text that they make up. -/
theorem scan_of_fits {lexemes : List Lexeme} (fits : Fits lexemes) :
    scan (lexemes.flatMap Lexeme.text) = .ok lexemes := by
  -- Each lexeme stands in front of the text of the others.
  induction lexemes with
  | nil => exact scan_nil
  | cons lexeme later ih =>
    rw [List.flatMap_cons, scan_text_append fits.1, ih fits.2]
    rfl

/-- The scan finds the only lexemes that fit and make up the text. -/
theorem scan_eq_ok_iff {lexemes : List Lexeme} : scan text = .ok lexemes ↔
    Fits lexemes ∧ text = lexemes.flatMap Lexeme.text := by
  -- What the scan finds fits, and what fits is found by it.
  constructor
  · intro scanned
    induction text using scan.induct generalizing lexemes with
    | case1 =>
      obtain rfl : [] = lexemes := by simpa using scanned
      exact ⟨trivial, rfl⟩
    | case2 char rest fault found => simp [scan_cons, found] at scanned
    | case3 char rest lexeme after found ih =>
      rw [scan_cons, found] at scanned
      obtain ⟨later, others, rfl⟩ := ok_of_map scanned
      obtain ⟨fits, rfl⟩ := ih others
      obtain ⟨more, begins, rfl⟩ := text_of_next found
      exact ⟨⟨stands_of_next found, fits⟩, by simp [begins]⟩
  · rintro ⟨fits, rfl⟩
    exact scan_of_fits fits

end Lexeme

end Ddl
