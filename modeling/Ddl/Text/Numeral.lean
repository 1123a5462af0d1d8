import Ddl.Text.Digit
import Ddl.Text.Space

/-! Integers are written with decimal digits of any script, underscores between them, and a sign. -/

namespace Ddl

namespace Numeral

/-- Whether the character may surround a numeral: white space apart from four control characters. -/
def isPadding (char : Char) : Bool :=
  isSpace char && !(0x1C ≤ char.toNat && char.toNat ≤ 0x1F)

/-- The greatest number of digits that an integer is read from. -/
def maxDigits : Nat :=
  4300

/-- Why a text gives no integer. -/
inductive Fault where
  /-- The text is no numeral. -/
  | malformed
  /-- The text begins with a numeral that has too many digits. -/
  | tooLong (count : Nat)
  deriving DecidableEq

/-- Whether the character is a digit or stands between digits. -/
def isPart (char : Char) : Bool :=
  char == '_' || (digitValue? char).isSome

/-- The values of digits, told whether one has to come first. -/
def digitsFrom : Bool → Text → Option (List Nat)
  -- An underscore stands between two digits, so it follows a digit and has to be followed by one.
  | needsDigit, [] => if needsDigit then none else some []
  | needsDigit, char :: rest =>
    if char = '_' ∧ needsDigit = false then digitsFrom true rest
    else
      match digitValue? char with
      | some digit => (digitsFrom false rest).map (digit :: ·)
      | none => none

/-- The number that decimal digits write. -/
def valueOf (digits : List Nat) : Nat :=
  digits.foldl (fun value digit => value * 10 + digit) 0

/-- The number that a text writes. -/
def natural (text : Text) : Except Fault Nat :=
  -- The digits are counted before anything after them is looked at.
  match digitsFrom true (text.takeWhile isPart) with
  | none => .error .malformed
  | some digits =>
    if maxDigits < digits.length then .error (.tooLong digits.length)
    else if text.all isPart then .ok (valueOf digits)
    else .error .malformed

/-- The integer that a text writes, with a sign right before its digits or without one. -/
def integer (text : Text) : Except Fault Int :=
  match text.trimBy isPadding with
  | '-' :: digits => (natural digits).map fun value => -value
  | '+' :: digits => (natural digits).map Int.ofNat
  | digits => (natural digits).map Int.ofNat

end Numeral

end Ddl
