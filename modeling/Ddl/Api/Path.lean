import Ddl.Separated
import Ddl.Text.Basic
import Ddl.Text.Digit

/-! A path is followed from segment to segment, and its characters may be written as escapes. -/

namespace Ddl

namespace Path

/-- The segments of a path after one more segment is followed. -/
def follow (segments : List Text) (segment : Text) : List Text :=
  -- One dot stays where it is, and two dots go back, but never beyond the root.
  if segment = ['.'] then segments
  else if segment = ['.', '.'] then if segments = [[]] then segments else segments.dropLast
  else segments ++ [segment]

/-- The path without segments that are made of one or two dots. -/
def withoutDots (path : Text) : Text :=
  Text.join ['/'] ((Separated.parts (· == '/') path).foldl follow [])

/-- The path from the root: with exactly one slash at its beginning. -/
def fromRoot (path : Text) : Text :=
  '/' :: path.dropWhile (· = '/')

/-- The path with each escape replaced by the character that it stands for. -/
def decodeEscapes : Text → Text
  -- A percent sign without two digits after it stands for itself.
  | [] => []
  | '%' :: high :: low :: rest =>
    match hexValue? high, hexValue? low with
    | some upper, some lower => Char.ofNat (upper * 16 + lower) :: decodeEscapes rest
    | _, _ => '%' :: decodeEscapes (high :: low :: rest)
  | char :: rest => char :: decodeEscapes rest

/-- How many characters a text has once those that are not plain are written as escapes. -/
def escapedLength (isPlain : Char → Bool) (text : Text) : Nat :=
  -- An escape takes three characters for each byte of the character that it stands for.
  text.foldl (fun length char => length + if isPlain char then 1 else 3 * char.utf8Size) 0

end Path

end Ddl
