import Ddl.Text.Basic

/-! Texts in capital letters, as far as those are letters of ASCII. -/

namespace Ddl

namespace Text

/-- The codes of the characters outside of ASCII whose capital forms are made of ASCII letters. -/
def capitalForms : List (Nat × String) :=
  [(0x00DF, "SS"), (0x0131, "I"), (0x017F, "S"), (0xFB00, "FF"), (0xFB01, "FI"),
   (0xFB02, "FL"), (0xFB03, "FFI"), (0xFB04, "FFL"), (0xFB05, "ST"), (0xFB06, "ST")]

/-- The capital form of a character, or the character itself when that form is not of ASCII. -/
def capital (char : Char) : Text :=
  -- Some characters are made of two or three letters, so the form is a text.
  if 'a' ≤ char ∧ char ≤ 'z' then [Char.ofNat (char.toNat - 32)]
  else ((capitalForms.lookup char.toNat).map String.toList).getD [char]

/-- The text with each of its characters in capital form. -/
def capitalize (text : Text) : Text :=
  text.flatMap capital

end Text

end Ddl
