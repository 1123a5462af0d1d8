import Ddl.Text.Surrogate
import Ddl.Text.Utf8

/-! The first bytes of a JSON text show in which of five encodings its characters are written. -/

namespace Ddl

namespace Json

/-- The characters of a JSON text, among which halves of surrogate pairs may stand. -/
abbrev Source := RawText

/-- Which byte of a code comes first. -/
inductive ByteOrder where
  /-- The byte that counts most. -/
  | big
  /-- The byte that counts least. -/
  | little
  deriving DecidableEq

/-- How bytes write characters. -/
inductive Encoding where
  /-- One to four bytes for each character. -/
  | utf8
  /-- Two bytes for each character of the basic plane, and four for each other one. -/
  | utf16 (order : ByteOrder)
  /-- Four bytes for each character. -/
  | utf32 (order : ByteOrder)
  deriving DecidableEq

/-- The code that bytes write in an order. -/
def ByteOrder.code (order : ByteOrder) (bytes : List UInt8) : Nat :=
  let ordered :=
    match order with
    | big => bytes
    | little => bytes.reverse
  ordered.foldl (fun code byte => code * 256 + byte.toNat) 0

namespace Encoding

/-- The encoding whose mark the bytes begin with, and the bytes after the mark. -/
def marked? : List UInt8 → Option (Encoding × List UInt8)
  -- A longer mark goes before a shorter one that it begins with.
  | 0x00 :: 0x00 :: 0xFE :: 0xFF :: rest => some (utf32 .big, rest)
  | 0xFF :: 0xFE :: 0x00 :: 0x00 :: rest => some (utf32 .little, rest)
  | 0xFE :: 0xFF :: rest => some (utf16 .big, rest)
  | 0xFF :: 0xFE :: rest => some (utf16 .little, rest)
  | 0xEF :: 0xBB :: 0xBF :: rest => some (utf8, rest)
  | _ => none

/-- The encoding of bytes that begin with no mark. -/
def unmarked : List UInt8 → Encoding
  -- JSON begins with characters of ASCII, so the zeros around them tell how wide a code is.
  | first :: second :: third :: fourth :: _ =>
    if first = 0 then if second = 0 then utf32 .big else utf16 .big
    else if second = 0 then if third = 0 ∧ fourth = 0 then utf32 .little else utf16 .little
    else utf8
  | [first, second] =>
    if first = 0 then utf16 .big else if second = 0 then utf16 .little else utf8
  | _ => utf8

/-- The codes of two bytes each, if the bytes make up whole codes. -/
def codes16? (order : ByteOrder) : List UInt8 → Option (List Nat)
  | [] => some []
  | first :: second :: rest => (codes16? order rest).map (order.code [first, second] :: ·)
  | _ => none

/-- The codes of four bytes each, if the bytes make up whole codes. -/
def codes32? (order : ByteOrder) : List UInt8 → Option (List Nat)
  | [] => some []
  | first :: second :: third :: fourth :: rest =>
    (codes32? order rest).map (order.code [first, second, third, fourth] :: ·)
  | _ => none

/-- The characters that codes of two bytes write. -/
def joinCodes : List Nat → Source
  -- A pair of surrogates writes one character, and half of a pair writes none.
  | [] => []
  | [code] => [CodePoint.ofCode code]
  | first :: second :: rest =>
    if Surrogate.isHigh first && Surrogate.isLow second then
      .whole (Surrogate.join first second) :: joinCodes rest
    else CodePoint.ofCode first :: joinCodes (second :: rest)

/-- The characters that bytes write in an encoding, if they write any. -/
def decode? : Encoding → List UInt8 → Option Source
  | utf8, bytes => (Utf8.decode bytes).toOption.map RawText.ofText
  | utf16 order, bytes => (codes16? order bytes).map joinCodes
  | utf32 order, bytes => do
    let codes ← codes32? order bytes
    if codes.all (· < 0x110000) then some (codes.map CodePoint.ofCode) else none

end Encoding

/-- The characters that the bytes of a JSON text write, if they write any. -/
def Source.ofBytes? (bytes : List UInt8) : Option Source :=
  match Encoding.marked? bytes with
  | some (encoding, rest) => encoding.decode? rest
  | none => (Encoding.unmarked bytes).decode? bytes

end Json

end Ddl
