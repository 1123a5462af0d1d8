import Ddl.Text.Basic
import Ddl.Text.Printable

/-! A quoted text shows every character of a text without ambiguity. -/

namespace Ddl

namespace Quoted

/-- The quote that encloses a text: a single one, unless only a double one needs no escape. -/
def markFor (text : Text) : Char :=
  if '\'' ∈ text ∧ '"' ∉ text then '"' else '\''

/-- The characters that show one character between the given quotes. -/
def encodeChar (mark char : Char) : Text :=
  -- What is not printable is shown by its code, with as few digits as its size allows.
  if char = mark ∨ char = '\\' then ['\\', char]
  else if char = '\t' then ['\\', 't']
  else if char = '\n' then ['\\', 'n']
  else if char = '\r' then ['\\', 'r']
  else if isPrintable char then [char]
  else if char.toNat < 0x100 then ['\\', 'x'] ++ Text.hexDigits 2 char.toNat
  else if char.toNat < 0x10000 then ['\\', 'u'] ++ Text.hexDigits 4 char.toNat
  else ['\\', 'U'] ++ Text.hexDigits 8 char.toNat

/-- The text between quotes. -/
def encode (text : Text) : Text :=
  let mark := markFor text
  [mark] ++ text.flatMap (encodeChar mark) ++ [mark]

end Quoted

end Ddl
