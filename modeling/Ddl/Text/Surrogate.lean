import Ddl.Text.Basic

/-! Surrogates are code points that write a character in pairs and none on their own. -/

namespace Ddl

namespace Surrogate

/-- Whether the code is the first half of a pair. -/
def isHigh (code : Nat) : Bool :=
  0xD800 ≤ code && code < 0xDC00

/-- Whether the code is the second half of a pair. -/
def isLow (code : Nat) : Bool :=
  0xDC00 ≤ code && code < 0xE000

/-- The character that a pair writes. -/
def join (high low : Nat) : Char :=
  -- Each half holds ten bits of what the code point exceeds the basic plane by.
  Char.ofNat (0x10000 + (high - 0xD800) * 0x400 + (low - 0xDC00))

end Surrogate

/-- A code point: a character, or half of a surrogate pair. -/
inductive CodePoint where
  /-- A character. -/
  | whole (char : Char)
  /-- Half of a pair, told by its place among the surrogates. -/
  | half (place : Fin 0x800)
  deriving DecidableEq

/-- A text in which halves of surrogate pairs may stand on their own. -/
abbrev RawText := List CodePoint

namespace CodePoint

/-- The code point with a code. -/
def ofCode (code : Nat) : CodePoint :=
  if surrogate : 0xD800 ≤ code ∧ code < 0xE000 then
    .half ⟨code - 0xD800, by omega⟩
  else .whole (Char.ofNat code)

/-- The character that a code point is, if it is one. -/
def char? : CodePoint → Option Char
  | whole char => some char
  | half _ => none

/-- Whether the code point is half of a pair. -/
def isHalf : CodePoint → Bool
  | whole _ => false
  | half _ => true

end CodePoint

namespace RawText

/-- The raw text of a text, which has no halves of pairs. -/
def ofText (text : Text) : RawText :=
  text.map .whole

/-- The text that a raw text is, if no half of a pair is in it. -/
def text? (raw : RawText) : Option Text :=
  raw.mapM CodePoint.char?

/-- The raw text as it is shown, with the replacement character for each half of a pair. -/
def shown (raw : RawText) : Text :=
  raw.map fun codePoint => codePoint.char?.getD '\uFFFD'

/-- Where a text is wanted, a raw text is shown as one. -/
instance : Coe RawText Text := ⟨shown⟩

end RawText

end Ddl
