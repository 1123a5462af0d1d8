/-! Text is a list of code points, so lengths, positions and cuts all count code points. -/

namespace Ddl

/-- A text is the list of its code points. -/
abbrev Text := List Char

namespace Text

/-- The text with the characters that satisfy a test removed from its end. -/
def trimEndBy (drops : Char → Bool) (text : Text) : Text :=
  -- The end of a text is the beginning of its reverse.
  (text.reverse.dropWhile drops).reverse

/-- The text with the characters that satisfy a test removed from both of its ends. -/
def trimBy (drops : Char → Bool) (text : Text) : Text :=
  -- The beginning goes first, so a text made of such characters alone becomes empty.
  trimEndBy drops (text.dropWhile drops)

/-- The texts joined into one, with a separator between neighbours. -/
def join (separator : Text) : List Text → Text
  -- Only a text that another one follows is given the separator.
  | [] => []
  | [last] => last
  | first :: second :: rest => first ++ separator ++ join separator (second :: rest)

/-- A text that others follow is joined to them by a separator. -/
theorem join_cons {separator first : Text} {rest : List Text} (more : rest ≠ []) :
    join separator (first :: rest) = first ++ (separator ++ join separator rest) := by
  cases rest with
  | nil => exact absurd rfl more
  | cons second rest => simp [join]

/-- The decimal digits of a natural number. -/
def ofNat (number : Nat) : Text :=
  -- Digits come most significant first, and zero is written with one digit.
  Nat.toDigits 10 number

/-- The decimal digits of an integer, after a minus sign when it is negative. -/
def ofInt : Int → Text
  -- The second form stands for the negative numbers, counted from minus one down.
  | .ofNat magnitude => ofNat magnitude
  | .negSucc below => '-' :: ofNat (below + 1)

/-- The hexadecimal digits of a number, filled up with zeros to a width. -/
def hexDigits (width number : Nat) : Text :=
  -- A number that needs more digits than the width gets them.
  let digits := Nat.toDigits 16 number
  List.replicate (width - digits.length) '0' ++ digits

end Text

end Ddl
