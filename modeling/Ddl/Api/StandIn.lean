import Ddl.Text.Surrogate

/-! Characters for private use stand in for halves of surrogate pairs while statements are read. No
reader tells the ones from the others: neither are white space, word characters or signs. Where two
readings with different stand-ins show different characters, half of a pair is shown. -/

namespace Ddl

namespace StandIn

/-- The code of the first stand-in for one reading. -/
def firstRow : Nat :=
  0xE000

/-- The code of the first stand-in for the other reading. -/
def secondRow : Nat :=
  0xE800

/-- The text of a raw text, with the stand-ins of a row for halves of pairs. -/
def fill (row : Nat) (raw : RawText) : Text :=
  raw.map fun
    | .whole char => char
    | .half place => Char.ofNat (row + place)

/-- The code point that the first and the second reading show. -/
def codePoint : CodePoint → CodePoint → CodePoint
  | .whole first, .whole second =>
    if first = second then .whole first else .half (Fin.ofNat 0x800 (first.toNat - firstRow))
  | first, _ => first

/-- The raw text that the first and the second reading show. -/
def merge (first second : RawText) : RawText :=
  List.zipWith codePoint first second

end StandIn

end Ddl
