import Ddl.Text.Space
import Ddl.Text.Word

/-! Classes of characters, the smallest pieces that patterns are made of. -/

namespace Ddl

/-- A class of characters that a pattern asks for at one place. -/
inductive CharClass where
  /-- A capital ASCII letter in either case, or a letter that stands for it. -/
  | letter (capital : Char)
  /-- One character and no other. -/
  | exactly (char : Char)
  /-- Every character but one. -/
  | except (char : Char)
  /-- White space. -/
  | space
  /-- A word character. -/
  | word
  /-- A single or double quote. -/
  | quote
  /-- Every character. -/
  | anything

namespace CharClass

/-- The capital ASCII letter that a character stands for when case is ignored. -/
def capitalOf (char : Char) : Char :=
  -- Four letters outside ASCII fold to ASCII letters: both odd forms of i, the kelvin sign, long s.
  if 'a' ≤ char ∧ char ≤ 'z' then Char.ofNat (char.toNat - 32)
  else if char.toNat = 0x130 ∨ char.toNat = 0x131 then 'I'
  else if char.toNat = 0x17F then 'S'
  else if char.toNat = 0x212A then 'K'
  else char

/-- Whether a single or double quote is given. -/
def isQuote (char : Char) : Bool :=
  char == '"' || char == '\''

/-- Whether the class contains the character. -/
def holds : CharClass → Char → Bool
  -- Only letters ignore case.
  | letter capital, char => capitalOf char == capital
  | exactly wanted, char => char == wanted
  | except unwanted, char => char != unwanted
  | space, char => isSpace char
  | word, char => isWord char
  | quote, char => isQuote char
  | anything, _ => true

/-- The first outcome for what is left after one, two and more characters of the class. -/
def firstStop? {Outcome : Type} (cls : CharClass) (accept : Text → Option Outcome) :
    Text → Option Outcome
  -- The first character outside the class ends the run, and there is no stop before the first one.
  | [] => none
  | char :: rest =>
    if cls.holds char then
      match accept rest with
      | some outcome => some outcome
      | none => cls.firstStop? accept rest
    else none

/-- The first outcome for what is left after the longest run in the class and then shorter ones. -/
def lastStop? {Outcome : Type} (cls : CharClass) (accept : Text → Option Outcome) :
    Text → Option Outcome
  -- A stop is tried after all later ones.
  | [] => none
  | char :: rest =>
    if cls.holds char then
      match cls.lastStop? accept rest with
      | some outcome => some outcome
      | none => accept rest
    else none

end CharClass

end Ddl
