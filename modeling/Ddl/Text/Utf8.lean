import Ddl.Text.Surrogate

/-! UTF-8 is read byte by byte, and the first byte that cannot belong to a text is reported. It has
no bytes for halves of surrogate pairs, and the first ones that should be written are reported. -/

namespace Ddl

namespace Utf8

/-- Why bytes are no text. -/
inductive Reason where
  /-- A byte cannot begin a character. -/
  | invalidStart
  /-- A byte cannot continue the character that was begun. -/
  | invalidContinuation
  /-- The bytes end within a character. -/
  | unexpectedEnd
  deriving DecidableEq

/-- The bytes at which reading stops. -/
structure Fault where
  /-- The number of bytes in front of the character that cannot be read. -/
  start : Nat
  /-- The first byte of that character. -/
  lead : UInt8
  /-- How many bytes of it were read. -/
  count : Nat
  /-- What is wrong with it. -/
  reason : Reason
  deriving DecidableEq

/-- The words for a reason. -/
def Reason.message : Reason → Text
  | invalidStart => "invalid start byte".toList
  | invalidContinuation => "invalid continuation byte".toList
  | unexpectedEnd => "unexpected end of data".toList

/-- What is said about the bytes at which reading stops. -/
def Fault.message (fault : Fault) : Text :=
  -- One byte is shown by its value, and several only by their places.
  let place :=
    if fault.count = 1 then
      " byte 0x".toList ++ Text.hexDigits 2 fault.lead.toNat ++ " in position ".toList ++
        Text.ofNat fault.start
    else
      " bytes in position ".toList ++ Text.ofNat fault.start ++ ['-'] ++
        Text.ofNat (fault.start + fault.count - 1)
  "'utf-8' codec can't decode".toList ++ place ++ ": ".toList ++ fault.reason.message

/-- A character that is begun and not yet complete. -/
structure Partial where
  /-- The first byte of the character. -/
  lead : UInt8
  /-- How many of its bytes were read. -/
  count : Nat
  /-- How many more bytes it needs. -/
  owed : Nat
  /-- The least value that the next byte may have. -/
  low : Nat
  /-- The greatest value that the next byte may have. -/
  high : Nat
  /-- The bits of the code point that were read. -/
  bits : Nat

/-- The character that a byte begins, when more than one byte makes it up. -/
def begin? (byte : UInt8) : Option Partial :=
  -- The second byte is bounded so that no code point has two forms or lies outside of the range.
  let code := byte.toNat
  if 0xC2 ≤ code ∧ code ≤ 0xDF then some ⟨byte, 1, 1, 0x80, 0xBF, code - 0xC0⟩
  else if 0xE0 ≤ code ∧ code ≤ 0xEF then
    let low := if code = 0xE0 then 0xA0 else 0x80
    let high := if code = 0xED then 0x9F else 0xBF
    some ⟨byte, 1, 2, low, high, code - 0xE0⟩
  else if 0xF0 ≤ code ∧ code ≤ 0xF4 then
    let low := if code = 0xF0 then 0x90 else 0x80
    let high := if code = 0xF4 then 0x8F else 0xBF
    some ⟨byte, 1, 3, low, high, code - 0xF0⟩
  else none

/-- The character with one more byte, which may have any value that a continuation may have. -/
def Partial.extend (begun : Partial) (byte : UInt8) : Partial :=
  { begun with
    count := begun.count + 1
    owed := begun.owed - 1
    low := 0x80
    high := 0xBF
    bits := begun.bits * 64 + (byte.toNat - 0x80) }

/-- The text of bytes that follow a number of others and may be within a character. -/
def decodeFrom : Nat → Option Partial → List UInt8 → Except Fault Text
  -- The number counts the bytes in front of the character that is read.
  | _, none, [] => .ok []
  | start, some begun, [] => .error ⟨start, begun.lead, begun.count, .unexpectedEnd⟩
  | start, none, byte :: rest =>
    if byte.toNat < 0x80 then
      (decodeFrom (start + 1) none rest).map (Char.ofNat byte.toNat :: ·)
    else
      match begin? byte with
      | some begun => decodeFrom start (some begun) rest
      | none => .error ⟨start, byte, 1, .invalidStart⟩
  | start, some begun, byte :: rest =>
    if begun.low ≤ byte.toNat ∧ byte.toNat ≤ begun.high then
      let extended := begun.extend byte
      if extended.owed = 0 then
        (decodeFrom (start + extended.count) none rest).map (Char.ofNat extended.bits :: ·)
      else decodeFrom start (some extended) rest
    else .error ⟨start, begun.lead, begun.count, .invalidContinuation⟩

/-- The text that bytes stand for. -/
def decode (bytes : List UInt8) : Except Fault Text :=
  decodeFrom 0 none bytes

/-- The halves of surrogate pairs at which writing stops. -/
structure Unwritable where
  /-- The number of code points in front of them. -/
  start : Nat
  /-- The place of the first one among the surrogates. -/
  first : Fin 0x800
  /-- How many of them follow each other. -/
  count : Nat
  deriving DecidableEq

/-- What is said about the halves of surrogate pairs at which writing stops. -/
def Unwritable.message (unwritable : Unwritable) : Text :=
  -- One half is shown by its code, and several only by their places.
  let place :=
    if unwritable.count = 1 then
      " character '\\u".toList ++ Text.hexDigits 4 (0xD800 + unwritable.first) ++
        "' in position ".toList ++ Text.ofNat unwritable.start
    else
      " characters in position ".toList ++ Text.ofNat unwritable.start ++ ['-'] ++
        Text.ofNat (unwritable.start + unwritable.count - 1)
  "'utf-8' codec can't encode".toList ++ place ++ ": surrogates not allowed".toList

/-- The halves of surrogate pairs that keep a raw text from being written, if there are any. -/
def unwritable? (raw : RawText) : Option Unwritable :=
  match raw.dropWhile (!·.isHalf) with
  | .half first :: later =>
    some ⟨(raw.takeWhile (!·.isHalf)).length, first, 1 + (later.takeWhile (·.isHalf)).length⟩
  | _ => none

end Utf8

end Ddl
