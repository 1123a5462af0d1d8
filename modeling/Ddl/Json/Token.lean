import Ddl.Json.Basic
import Ddl.Json.Encoding
import Ddl.Text.Digit
import Ddl.Text.Numeral

/-! JSON is read in tokens, each with the characters that are left where it begins. -/

namespace Ddl

namespace Json

/-- A token of JSON. -/
inductive Token where
  /-- The brace that opens an object. -/
  | openObject
  /-- The brace that closes an object. -/
  | closeObject
  /-- The bracket that opens an array. -/
  | openArray
  /-- The bracket that closes an array. -/
  | closeArray
  /-- The colon after the name of a field. -/
  | colon
  /-- The comma between items or fields. -/
  | comma
  /-- A string, in which halves of surrogate pairs may stand. -/
  | string (chars : Source)
  /-- A number or one of the words that are values. -/
  | scalar (value : Json)
  /-- An integer with more digits than are read. -/
  | hugeInteger
  /-- A string that cannot be read, with the characters left at its fault. -/
  | badString (fault : Source)
  /-- Anything else. -/
  | junk

/-- A token with the characters that are left where it begins. -/
structure PlacedToken where
  /-- The characters from the first one of the token on. -/
  place : Source
  /-- The token. -/
  token : Token

/-- Whether the character separates tokens. -/
def isBlank : CodePoint → Bool
  | .whole char => char == ' ' || char == '\t' || char == '\n' || char == '\r'
  | .half _ => false

/-- Whether the character is a digit of a number. -/
def isDigit : CodePoint → Bool
  -- Numbers are written with the ten digits of ASCII alone.
  | .whole char => isAsciiDigit char
  | .half _ => false

/-- Whether the character is a control character, which no string holds as it is. -/
def isControl : CodePoint → Bool
  | .whole char => char.toNat < 0x20
  | .half _ => false

/-- The number that four hexadecimal digits at the beginning of a text write. -/
def hexCode? : Source → Option Nat
  -- Something has to follow the digits, since a string never ends with them.
  | first :: second :: third :: fourth :: _ :: _ => do
    let high := (← hexValue? (← first.char?)) * 16 + (← hexValue? (← second.char?))
    let low := (← hexValue? (← third.char?)) * 16 + (← hexValue? (← fourth.char?))
    return high * 256 + low
  | _ => none

/-- The character that an escape stands for, and how many characters follow its backslash. -/
def escape (backslash : Source) : Source → Except Source (CodePoint × Nat)
  -- The first text is what is left at the backslash, and the second what is left after it.
  | .whole '"' :: _ => .ok (.whole '"', 1)
  | .whole '\\' :: _ => .ok (.whole '\\', 1)
  | .whole '/' :: _ => .ok (.whole '/', 1)
  | .whole 'b' :: _ => .ok (.whole '\x08', 1)
  | .whole 'f' :: _ => .ok (.whole '\x0c', 1)
  | .whole 'n' :: _ => .ok (.whole '\n', 1)
  | .whole 'r' :: _ => .ok (.whole '\r', 1)
  | .whole 't' :: _ => .ok (.whole '\t', 1)
  | .whole 'u' :: digits =>
    match hexCode? digits with
    | none => .error (.whole 'u' :: digits)
    | some code =>
      match Surrogate.isHigh code, digits.drop 4 with
      | true, .whole '\\' :: .whole 'u' :: more =>
        match hexCode? more with
        | none => .error (.whole 'u' :: more)
        | some low =>
          if Surrogate.isLow low then .ok (.whole (Surrogate.join code low), 11)
          else .ok (CodePoint.ofCode code, 5)
      | _, _ => .ok (CodePoint.ofCode code, 5)
  | _ => .error backslash

/-- The characters of a string, and how many it takes after the quote that opens it. -/
def stringFrom (quote : Source) : Source → Except Source (Source × Nat)
  -- A string without an end is at fault where it begins, and a control character where it stands.
  | [] => .error quote
  | .whole '"' :: _ => .ok ([], 1)
  | .whole '\\' :: rest =>
    if rest = [] then .error quote
    else
      match escape (.whole '\\' :: rest) rest with
      | .error fault => .error fault
      | .ok (char, length) =>
        (stringFrom quote (rest.drop length)).map fun (later, taken) =>
          (char :: later, 1 + length + taken)
  | char :: rest =>
    if isControl char then .error (char :: rest)
    else (stringFrom quote rest).map fun (later, taken) => (char :: later, 1 + taken)
termination_by source => source.length
decreasing_by
  · simp only [List.length_drop, List.length_cons]
    omega
  · simp

/-- How many digits a text begins with. -/
def digitCount (source : Source) : Nat :=
  (source.takeWhile isDigit).length

/-- How many characters of a text are the whole part of a number at its beginning. -/
def wholeLength : Source → Nat
  -- A zero at the beginning is the whole part by itself.
  | .whole '0' :: _ => 1
  | source => digitCount source

/-- How many characters of a text are a decimal point with digits at its beginning. -/
def fractionLength : Source → Nat
  -- A point without digits belongs to no number.
  | .whole '.' :: rest => if digitCount rest = 0 then 0 else 1 + digitCount rest
  | _ => 0

/-- How many characters of a text are an exponent at its beginning. -/
def exponentLength : Source → Nat
  -- A mark without digits belongs to no number.
  | mark :: rest =>
    let sign :=
      match rest with
      | .whole '+' :: _ => 1
      | .whole '-' :: _ => 1
      | _ => 0
    let digits := digitCount (rest.drop sign)
    if (mark = .whole 'e' ∨ mark = .whole 'E') ∧ digits ≠ 0 then 1 + sign + digits else 0
  | [] => 0

/-- The number that a text begins with, and how many characters it takes. -/
def number? (source : Source) : Option (Token × Nat) :=
  -- A number with a fraction or an exponent is kept as it is written, however long it is.
  let sign := if source.head? = some (.whole '-') then 1 else 0
  let whole := wholeLength (source.drop sign)
  let part := fractionLength (source.drop (sign + whole))
  let scale := exponentLength (source.drop (sign + whole + part))
  let length := sign + whole + part + scale
  if whole = 0 then none
  else if part ≠ 0 ∨ scale ≠ 0 then
    some (.scalar (.decimal ((source.take length).filterMap CodePoint.char?)), length)
  else if Numeral.maxDigits < whole then some (.hugeInteger, length)
  else
    let digits := ((source.drop sign).take whole).filterMap fun char => char.char?.bind digitValue?
    let value : Int := Numeral.valueOf digits
    some (.scalar (.integer (if sign = 1 then -value else value)), length)

/-- The words that are values, and what they stand for. -/
def words : List (Text × Json) :=
  [("null".toList, .null), ("true".toList, .bool true), ("false".toList, .bool false),
    ("NaN".toList, .decimal "NaN".toList), ("Infinity".toList, .decimal "Infinity".toList),
    ("-Infinity".toList, .decimal "-Infinity".toList)]

/-- The word that a text begins with, and how many characters it takes. -/
def word? (source : Source) : Option (Token × Nat) :=
  (words.find? fun word => (RawText.ofText word.1).isPrefixOf source).map fun word =>
    (.scalar word.2, word.1.length)

/-- The token that begins with the character, and how many characters it takes after that one. -/
def token (char : CodePoint) (rest : Source) : Token × Nat :=
  match char with
  | .whole '{' => (.openObject, 0)
  | .whole '}' => (.closeObject, 0)
  | .whole '[' => (.openArray, 0)
  | .whole ']' => (.closeArray, 0)
  | .whole ':' => (.colon, 0)
  | .whole ',' => (.comma, 0)
  | .whole '"' =>
    match stringFrom (char :: rest) rest with
    | .ok (chars, taken) => (.string chars, taken)
    | .error fault => (.badString fault, 0)
  | _ =>
    match (word? (char :: rest)).or (number? (char :: rest)) with
    | some (found, taken) => (found, taken - 1)
    | none => (.junk, 0)

/-- The tokens of a text, each with the characters that are left where it begins. -/
def tokens : Source → List PlacedToken
  -- A reader stops at the first token that it cannot use, so what follows junk does not matter.
  | [] => []
  | char :: rest =>
    if isBlank char then tokens rest
    else
      let (found, taken) := token char rest
      ⟨char :: rest, found⟩ :: tokens (rest.drop taken)
termination_by source => source.length
decreasing_by
  · simp
  · simp only [List.length_drop, List.length_cons]
    omega

end Json

end Ddl
