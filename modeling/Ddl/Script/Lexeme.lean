import Ddl.Text.Space

/-! Lexemes cut a script into white space, comments, semicolons and everything else. -/

namespace Ddl

/-- The kinds of comments that can reach over several lines. -/
inductive CommentStyle where
  /-- A slash and an asterisk, which can be nested. -/
  | plain
  /-- A slash, an asterisk and a plus sign, which cannot be nested. -/
  | hint
  /-- A brace and a number sign, which can be nested. -/
  | template
  deriving DecidableEq

namespace CommentStyle

/-- Whether two neighbours close a comment of the style. -/
def isClose : CommentStyle → Char → Char → Bool
  | template, first, second => first == '#' && second == '}'
  | _, first, second => first == '*' && second == '/'

/-- Whether two neighbours open another comment inside of a comment of the style. -/
def isOpen : CommentStyle → Char → Char → Bool
  | plain, first, second => first == '/' && second == '*'
  | hint, _, _ => false
  | template, first, second => first == '{' && second == '#'

/-- The rest of a comment up to the end of its close, and the text after it, if it is closed. -/
def split? (style : CommentStyle) : Nat → Text → Option (Text × Text)
  -- The number counts the comments around the innermost one. A character is passed before the
  -- next opening is looked for, so none is seen right after the opening of the whole comment.
  | around, first :: second :: rest =>
    if style.isClose first second && around == 0 then some ([first, second], rest)
    else
      let around := if style.isClose first second then around - 1 else around
      match rest with
      | [] => none
      | third :: later =>
        if style.isOpen second third then
          (style.split? (around + 1) later).map fun (inside, after) =>
            (first :: second :: third :: inside, after)
        else
          (style.split? around (second :: third :: later)).map fun (inside, after) =>
            (first :: inside, after)
  | _, _ => none

end CommentStyle

/-- A piece of a script. -/
inductive Lexeme where
  /-- One character of white space. -/
  | space (char : Char)
  /-- A comment with the characters that open and close it. -/
  | comment (text : Text)
  /-- The semicolon that ends a statement. -/
  | semicolon
  /-- A quoted text or another part of a statement. -/
  | token (text : Text)
  deriving DecidableEq

/-- Why a script cannot be cut into lexemes. -/
inductive ScanFault where
  /-- A comment is never closed. -/
  | unclosedComment
  /-- A quote is opened by the last character. -/
  | quoteAtEnd
  /-- A quote is never closed. -/
  | unclosedQuote
  /-- The text ends with a quote that is written twice inside of quotes. -/
  | doubledQuoteAtEnd
  deriving DecidableEq

namespace Lexeme

/-- The characters of a lexeme. -/
def text : Lexeme → Text
  | space char => [char]
  | comment text => text
  | semicolon => [';']
  | token text => text

/-- Whether the lexeme is part of a statement. -/
def isToken : Lexeme → Bool
  | token _ => true
  | _ => false

/-- Whether the character ends a line, and with it a line comment. -/
def endsLine (char : Char) : Bool :=
  char == '\n' || char == '\r'

/-- The rest of a quoted text up to the quote that closes it, and the text after it. -/
def splitQuoted (mark : Char) : Text → Except ScanFault (Text × Text)
  -- A quote written twice stands for itself, but not at the very end of the script.
  | [] => .error .unclosedQuote
  | [last] => if last = mark then .ok ([last], []) else .error .unclosedQuote
  | first :: second :: rest =>
    if first = mark then
      if second = mark then
        if rest = [] then .error .doubledQuoteAtEnd
        else (splitQuoted mark rest).map fun (inside, after) => (first :: second :: inside, after)
      else .ok ([first], second :: rest)
    else (splitQuoted mark (second :: rest)).map fun (inside, after) => (first :: inside, after)

/-- The comment that an opening begins, and the text after it. -/
def ofComment (style : CommentStyle) (opening rest : Text) : Except ScanFault (Lexeme × Text) :=
  match style.split? 0 rest with
  | some (inside, after) => .ok (comment (opening ++ inside), after)
  | none => .error .unclosedComment

/-- The quoted text that a quote begins, and the text after it. -/
def ofQuote (mark : Char) (rest : Text) : Except ScanFault (Lexeme × Text) :=
  -- A quote with nothing behind it is told apart from one that is left open later.
  if rest = [] then .error .quoteAtEnd
  else (splitQuoted mark rest).map fun (inside, after) => (token (mark :: inside), after)

/-- The lexeme that begins with the character, and the text after it. -/
def next : Char → Text → Except ScanFault (Lexeme × Text)
  -- Longer openings go before shorter ones that they begin with.
  | ';', rest => .ok (semicolon, rest)
  | '-', '-' :: rest =>
    .ok (comment ('-' :: '-' :: rest.takeWhile (!endsLine ·)), rest.dropWhile (!endsLine ·))
  | '-', '|' :: '-' :: rest => .ok (token ['-', '|', '-'], rest)
  | '/', '*' :: '+' :: rest => ofComment .hint ['/', '*', '+'] rest
  | '/', '*' :: rest => ofComment .plain ['/', '*'] rest
  | '{', '#' :: rest => ofComment .template ['{', '#'] rest
  | '{', '{' :: '-' :: rest => .ok (token ['{', '{', '-'], rest)
  | '{', '%' :: '-' :: rest => .ok (token ['{', '%', '-'], rest)
  | '"', rest => ofQuote '"' rest
  | '\'', rest => ofQuote '\'' rest
  | char, rest => if isSpace char then .ok (space char, rest) else .ok (token [char], rest)

/-- A comment and the text after it are the text that was split. -/
theorem append_of_split? {style : CommentStyle} {around : Nat} {text inside after : Text}
    (found : style.split? around text = some (inside, after)) : text = inside ++ after := by
  -- Each step puts back in front what it took off.
  fun_induction CommentStyle.split? generalizing inside with
  | case1 =>
    simp only [Option.some.injEq, Prod.mk.injEq] at found
    obtain ⟨rfl, rfl⟩ := found
    rfl
  | case2 => simp at found
  | case3 =>
    rename_i ih
    simp only [Option.map_eq_some_iff, Prod.mk.injEq] at found
    obtain ⟨⟨inner, rest⟩, split, rfl, rfl⟩ := found
    simp [ih split]
  | case4 =>
    rename_i ih
    simp only [Option.map_eq_some_iff, Prod.mk.injEq] at found
    obtain ⟨⟨inner, rest⟩, split, rfl, rfl⟩ := found
    simp [ih split]
  | case5 => simp at found

/-- Success after a change of the outcome comes from success before it. -/
theorem ok_of_map {α β : Type} {outcome : Except ScanFault α} {change : α → β} {value : β}
    (mapped : outcome.map change = .ok value) :
    ∃ source, outcome = .ok source ∧ change source = value := by
  -- A fault stays a fault, so only a value can have been changed.
  cases outcome with
  | error fault => simp [Except.map] at mapped
  | ok source => exact ⟨source, rfl, by simpa [Except.map] using mapped⟩

/-- A quoted text and the text after it are the text that was split. -/
theorem append_of_splitQuoted {mark : Char} {text inside after : Text}
    (found : splitQuoted mark text = .ok (inside, after)) : text = inside ++ after := by
  -- Each step puts back in front what it took off.
  fun_induction splitQuoted generalizing inside with
  | case1 => simp at found
  | case2 => simp_all
  | case3 => simp at found
  | case4 => simp at found
  -- A mark that stands twice is content, and so is any other character.
  | case5 =>
    rename_i ih
    obtain ⟨⟨inner, rest⟩, split, same⟩ := ok_of_map found
    simp only [Prod.mk.injEq] at same
    obtain ⟨rfl, rfl⟩ := same
    simp [ih split]
  | case6 =>
    simp only [Except.ok.injEq, Prod.mk.injEq] at found
    obtain ⟨rfl, rfl⟩ := found
    rfl
  | case7 =>
    rename_i ih
    obtain ⟨⟨inner, rest⟩, split, same⟩ := ok_of_map found
    simp only [Prod.mk.injEq] at same
    obtain ⟨rfl, rfl⟩ := same
    simp [ih split]

/-- A comment is its opening and the part of the text up to its close. -/
theorem eq_comment_of_ofComment {style : CommentStyle} {opening rest after : Text} {lexeme : Lexeme}
    (found : ofComment style opening rest = .ok (lexeme, after)) :
    ∃ inside, lexeme = comment (opening ++ inside) ∧ rest = inside ++ after := by
  -- Success comes from the split of the rest.
  unfold ofComment at found
  split at found
  · rename_i inside after split
    simp only [Except.ok.injEq, Prod.mk.injEq] at found
    obtain ⟨rfl, rfl⟩ := found
    exact ⟨inside, rfl, append_of_split? split⟩
  · simp at found

/-- A quoted text is its opening quote and the part of the text up to the closing one. -/
theorem eq_token_of_ofQuote {mark : Char} {rest after : Text} {lexeme : Lexeme}
    (found : ofQuote mark rest = .ok (lexeme, after)) :
    ∃ inside, lexeme = token (mark :: inside) ∧ rest = inside ++ after := by
  -- Success comes from the split of the rest.
  unfold ofQuote at found
  split at found
  · simp at found
  · obtain ⟨⟨inside, rest⟩, split, same⟩ := ok_of_map found
    simp only [Prod.mk.injEq] at same
    obtain ⟨rfl, rfl⟩ := same
    exact ⟨inside, rfl, append_of_splitQuoted split⟩

/-- A lexeme begins with the first character, and the text after it is what it leaves. -/
theorem text_of_next {char : Char} {rest after : Text} {lexeme : Lexeme}
    (found : next char rest = .ok (lexeme, after)) :
    ∃ more, lexeme.text = char :: more ∧ rest = more ++ after := by
  -- Comments and quotes have their own lemmas, and the other lexemes are taken off directly.
  unfold next at found
  split at found
  case h_4 =>
    obtain ⟨inside, rfl, rfl⟩ := eq_comment_of_ofComment found
    exact ⟨_, rfl, rfl⟩
  case h_5 =>
    obtain ⟨inside, rfl, rfl⟩ := eq_comment_of_ofComment found
    exact ⟨_, rfl, rfl⟩
  case h_6 =>
    obtain ⟨inside, rfl, rfl⟩ := eq_comment_of_ofComment found
    exact ⟨_, rfl, rfl⟩
  case h_9 =>
    obtain ⟨inside, rfl, rfl⟩ := eq_token_of_ofQuote found
    exact ⟨_, rfl, rfl⟩
  case h_10 =>
    obtain ⟨inside, rfl, rfl⟩ := eq_token_of_ofQuote found
    exact ⟨_, rfl, rfl⟩
  -- Any other character is a lexeme by itself, white space or not.
  case h_11 =>
    split at found <;>
    · simp only [Except.ok.injEq, Prod.mk.injEq] at found
      obtain ⟨rfl, rfl⟩ := found
      exact ⟨[], rfl, rfl⟩
  case h_2 =>
    simp only [Except.ok.injEq, Prod.mk.injEq] at found
    obtain ⟨rfl, rfl⟩ := found
    exact ⟨_, rfl, by simp [List.takeWhile_append_dropWhile]⟩
  -- What is left are semicolons and openings of a fixed length.
  all_goals
    simp only [Except.ok.injEq, Prod.mk.injEq] at found
    obtain ⟨rfl, rfl⟩ := found
    exact ⟨_, rfl, rfl⟩

/-- What follows a lexeme is shorter than the text that it was taken from. -/
theorem length_lt_of_next {char : Char} {rest after : Text} {lexeme : Lexeme}
    (found : next char rest = .ok (lexeme, after)) : after.length < (char :: rest).length := by
  -- The lexeme takes at least the first character.
  obtain ⟨more, _, rfl⟩ := text_of_next found
  simp only [List.length_cons, List.length_append]
  omega

/-- The lexemes of a script, in order. -/
def scan : Text → Except ScanFault (List Lexeme)
  -- The first fault ends the scan, since nothing behind it can be told apart.
  | [] => .ok []
  | char :: rest =>
    match _found : next char rest with
    | .error fault => .error fault
    | .ok (lexeme, after) => (scan after).map (lexeme :: ·)
termination_by text => text.length
decreasing_by exact length_lt_of_next _found

end Lexeme

end Ddl
