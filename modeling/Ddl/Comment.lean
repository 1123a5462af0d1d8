import Ddl.Text.Basic

/-! Comments of a statement are left out without regard to quotes around them. -/

namespace Ddl

namespace LineComment

/-- The text without line comments, read from inside of such a comment or from outside. -/
def dropFrom : Bool → Text → Text
  -- Two hyphens open a comment, and the line feed that ends it is kept.
  | _, [] => []
  | true, char :: rest =>
    if char = '\n' then char :: dropFrom false rest else dropFrom true rest
  | false, '-' :: '-' :: rest => dropFrom true rest
  | false, char :: rest => char :: dropFrom false rest

/-- The text without its line comments. -/
def drop (text : Text) : Text :=
  dropFrom false text

end LineComment

namespace BlockComment

/-- Whether an asterisk followed by a slash stands somewhere in the text. -/
def closes : Text → Bool
  -- The two characters have to be neighbours.
  | [] => false
  | '*' :: '/' :: _ => true
  | _ :: rest => closes rest

/-- The text without block comments, read from inside of such a comment or from outside. -/
def dropFrom : Bool → Text → Text
  -- An opening that is never closed is text, and so is all that follows it.
  | _, [] => []
  | true, '*' :: '/' :: rest => dropFrom false rest
  | true, _ :: rest => dropFrom true rest
  | false, '/' :: '*' :: rest =>
    if closes rest then dropFrom true rest else '/' :: '*' :: rest
  | false, char :: rest => char :: dropFrom false rest

/-- The text without its closed block comments. -/
def drop (text : Text) : Text :=
  dropFrom false text

end BlockComment

end Ddl
