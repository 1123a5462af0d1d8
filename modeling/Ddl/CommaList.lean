import Ddl.Text.Space

/-! Lists of texts separated by the commas that stand outside of parentheses. -/

namespace Ddl

namespace CommaList

/-- How much deeper in parentheses a text is after the character. -/
def deepening (char : Char) : Int :=
  if char = '(' then 1 else if char = ')' then -1 else 0

/-- The first part of a text and its later parts, for a text that begins at the given depth. -/
def partsFrom : Int → Text → Text × List Text
  -- A comma separates only at depth zero, which closing parentheses can also leave downwards.
  | _, [] => ([], [])
  | depth, char :: rest =>
    if char = ',' ∧ depth = 0 then
      let (first, later) := partsFrom depth rest
      ([], first :: later)
    else
      let (first, later) := partsFrom (depth + deepening char) rest
      (char :: first, later)

/-- The parts of a text between its separating commas, of which there is at least one. -/
def parts (text : Text) : List Text :=
  let (first, later) := partsFrom 0 text
  first :: later

/-- The parts of a text between its separating commas, without a blank part at the end. -/
def split (text : Text) : List Text :=
  -- Blank parts elsewhere are kept, and no part is trimmed.
  let all := parts text
  if (all.getLast?.elim true Text.isBlank) then all.dropLast else all

end CommaList

end Ddl
