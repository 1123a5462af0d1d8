import Ddl.Json.Basic

/-! JSON is written without white space between its tokens, and with as few escapes as possible. -/

namespace Ddl

namespace Json

/-- The characters that have an escape of their own, with the letter or sign of the escape. -/
def escapes : List (Char × Char) :=
  [('"', '"'), ('\\', '\\'), ('\n', 'n'), ('\r', 'r'), ('\t', 't'), ('\x08', 'b'), ('\x0c', 'f')]

/-- A character as it is written in a string. -/
def writtenChar (char : Char) : Text :=
  -- The other control characters are written by their codes.
  match escapes.lookup char with
  | some sign => ['\\', sign]
  | none =>
    if char.toNat < 0x20 then '\\' :: 'u' :: Text.hexDigits 4 char.toNat else [char]

/-- A code point as it is written in a string. -/
def writtenCodePoint : CodePoint → RawText
  | .whole char => .ofText (writtenChar char)
  | .half place => [.half place]

/-- A string as it is written, with quotes around it. -/
def quoted (value : RawText) : RawText :=
  .whole '"' :: (value.flatMap writtenCodePoint ++ [.whole '"'])

mutual

/-- A value as it is written, where halves of surrogate pairs stay what they are. -/
def written : Json → RawText
  | null => .ofText "null".toList
  | bool true => .ofText "true".toList
  | bool false => .ofText "false".toList
  | integer value => .ofText (Text.ofInt value)
  | decimal literal => .ofText literal
  | string value => quoted (.ofText value)
  | brokenString value => quoted value
  | array items => .whole '[' :: ([.whole ','].intercalate (writtenItems items) ++ [.whole ']'])
  | object fields =>
    .whole '\x7b' :: ([.whole ','].intercalate (writtenFields fields) ++ [.whole '\x7d'])

/-- The items of an array, each as it is written. -/
def writtenItems : List Json → List RawText
  | [] => []
  | item :: rest => item.written :: writtenItems rest

/-- The fields of an object, each as it is written. -/
def writtenFields : List (Text × Json) → List RawText
  | [] => []
  | (name, value) :: rest =>
    (quoted (.ofText name) ++ .whole ':' :: value.written) :: writtenFields rest

end

end Json

end Ddl
