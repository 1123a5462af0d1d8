import Ddl.Text.Basic
import Ddl.Text.CodeRange

/-! White space, and the removal of white space at the ends of a text. -/

namespace Ddl

/-- The code points of white space characters: separators, tabulators and line ends. -/
def spaceRanges : List CodeRange :=
  [⟨0x0009, 0x000D⟩, ⟨0x001C, 0x0020⟩, ⟨0x0085, 0x0085⟩, ⟨0x00A0, 0x00A0⟩,
   ⟨0x1680, 0x1680⟩, ⟨0x2000, 0x200A⟩, ⟨0x2028, 0x2029⟩, ⟨0x202F, 0x202F⟩,
   ⟨0x205F, 0x205F⟩, ⟨0x3000, 0x3000⟩]

/-- Whether the character is white space. -/
def isSpace (char : Char) : Bool :=
  CodeRange.cover spaceRanges char.toNat

namespace Text

/-- The text without white space at its ends. -/
def trim (text : Text) : Text :=
  trimBy isSpace text

/-- Whether the text holds white space only, as the empty text does. -/
def isBlank (text : Text) : Bool :=
  text.all isSpace

end Text

end Ddl
