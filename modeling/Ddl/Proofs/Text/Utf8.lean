import Ddl.Text.Utf8
import Mathlib.Data.List.Basic

/-! Every text is read back from the bytes that stand for it. -/

namespace Ddl

namespace Utf8

/-- The bytes that stand for a text. -/
def encode (text : Text) : List UInt8 :=
  text.flatMap String.utf8EncodeChar

variable {start : Nat} {byte : UInt8} {begun : Partial}

/-- A byte that begins a character is followed by those that it needs. -/
theorem decodeFrom_begin (wide : 0x80 ≤ byte.toNat) (begins : begin? byte = some begun)
    (rest : List UInt8) :
    decodeFrom start none (byte :: rest) = decodeFrom start (some begun) rest := by
  rw [decodeFrom, if_neg (Nat.not_lt.mpr wide), begins]

/-- A byte that may follow is taken into the character, which needs more bytes. -/
theorem decodeFrom_extend (above : begun.low ≤ byte.toNat) (below : byte.toNat ≤ begun.high)
    (owes : 2 ≤ begun.owed) (rest : List UInt8) : decodeFrom start (some begun) (byte :: rest) =
      decodeFrom start (some (begun.extend byte)) rest := by
  -- The character still needs a byte.
  have incomplete : (begun.extend byte).owed ≠ 0 := by
    show begun.owed - 1 ≠ 0
    omega
  rw [decodeFrom, if_pos ⟨above, below⟩]
  exact if_neg incomplete

/-- The last byte that is needed completes the character. -/
theorem decodeFrom_complete (above : begun.low ≤ byte.toNat) (below : byte.toNat ≤ begun.high)
    (owes : begun.owed = 1) (rest : List UInt8) :
    decodeFrom start (some begun) (byte :: rest) =
      (decodeFrom (start + (begun.count + 1)) none rest).map
        (Char.ofNat (begun.bits * 64 + (byte.toNat - 0x80)) :: ·) := by
  -- No further byte is needed.
  have complete : (begun.extend byte).owed = 0 := by
    rw [Partial.extend, owes]
  rw [decodeFrom, if_pos ⟨above, below⟩]
  exact if_pos complete

/-- These bytes begin a character of two bytes. -/
theorem begin?_of_two (above : 0xC2 ≤ byte.toNat) (below : byte.toNat ≤ 0xDF) :
    begin? byte = some ⟨byte, 1, 1, 0x80, 0xBF, byte.toNat - 0xC0⟩ :=
  if_pos ⟨above, below⟩

/-- These bytes begin a character of three bytes. -/
theorem begin?_of_three (above : 0xE0 ≤ byte.toNat) (below : byte.toNat ≤ 0xEF) :
    begin? byte = some ⟨byte, 1, 2, if byte.toNat = 0xE0 then 0xA0 else 0x80,
      if byte.toNat = 0xED then 0x9F else 0xBF, byte.toNat - 0xE0⟩ :=
  (if_neg (by omega)).trans (if_pos ⟨above, below⟩)

/-- These bytes begin a character of four bytes. -/
theorem begin?_of_four (above : 0xF0 ≤ byte.toNat) (below : byte.toNat ≤ 0xF4) :
    begin? byte = some ⟨byte, 1, 3, if byte.toNat = 0xF0 then 0x90 else 0x80,
      if byte.toNat = 0xF4 then 0x8F else 0xBF, byte.toNat - 0xF0⟩ :=
  (if_neg (by omega)).trans ((if_neg (by omega)).trans (if_pos ⟨above, below⟩))

variable {code : Nat}

/-- Two bytes hold the upper five bits and the lower six. -/
theorem decodeFrom_two (above : 0x80 ≤ code) (below : code ≤ 0x7FF) (rest : List UInt8) :
    decodeFrom start none
        (UInt8.ofNat (code / 64 % 32 + 192) :: UInt8.ofNat (code % 64 + 128) :: rest) =
      (decodeFrom (start + 2) none rest).map (Char.ofNat code :: ·) := by
  -- The bits are put together again from both bytes.
  have first := UInt8.toNat_ofNat_of_lt' (show code / 64 % 32 + 192 < 256 by omega)
  have second := UInt8.toNat_ofNat_of_lt' (show code % 64 + 128 < 256 by omega)
  have whole : (code / 64 % 32 + 192 - 0xC0) * 64 + (code % 64 + 128 - 0x80) = code := by omega
  rw [decodeFrom_begin (by omega) (begin?_of_two (by omega) (by omega)),
    decodeFrom_complete (by dsimp only; omega) (by dsimp only; omega) rfl]
  dsimp only
  rw [first, second, whole]

/-- Three bytes hold the upper four bits and six lower ones twice. The second byte is bounded since
code points of surrogates and shorter codes are left out. -/
theorem decodeFrom_three (above : 0x800 ≤ code) (below : code ≤ 0xFFFF)
    (valid : code < 0xD800 ∨ 0xDFFF < code) (rest : List UInt8) :
    decodeFrom start none (UInt8.ofNat (code / 4096 % 16 + 224) ::
        UInt8.ofNat (code / 64 % 64 + 128) :: UInt8.ofNat (code % 64 + 128) :: rest) =
      (decodeFrom (start + 3) none rest).map (Char.ofNat code :: ·) := by
  have first := UInt8.toNat_ofNat_of_lt' (show code / 4096 % 16 + 224 < 256 by omega)
  have second := UInt8.toNat_ofNat_of_lt' (show code / 64 % 64 + 128 < 256 by omega)
  have third := UInt8.toNat_ofNat_of_lt' (show code % 64 + 128 < 256 by omega)
  -- The digits to the base 64 are put together again.
  have whole : ((code / 4096 % 16 + 224 - 0xE0) * 64 + (code / 64 % 64 + 128 - 0x80)) * 64 +
    (code % 64 + 128 - 0x80) = code := by omega
  rw [decodeFrom_begin (by omega) (begin?_of_three (by omega) (by omega)),
    decodeFrom_extend (by dsimp only; split <;> omega) (by dsimp only; split <;> omega)
      (Nat.le_refl 2),
    decodeFrom_complete (by dsimp only [Partial.extend]; omega)
      (by dsimp only [Partial.extend]; omega) rfl]
  dsimp only [Partial.extend]
  rw [first, second, third, whole]

/-- Four bytes hold the upper three bits and six lower ones three times. -/
theorem decodeFrom_four (above : 0x10000 ≤ code) (below : code < 0x110000) (rest : List UInt8) :
    decodeFrom start none (UInt8.ofNat (code / 262144 % 8 + 240) ::
        UInt8.ofNat (code / 4096 % 64 + 128) :: UInt8.ofNat (code / 64 % 64 + 128) ::
        UInt8.ofNat (code % 64 + 128) :: rest) =
      (decodeFrom (start + 4) none rest).map (Char.ofNat code :: ·) := by
  -- The bits are put together again from all four bytes.
  have first := UInt8.toNat_ofNat_of_lt' (show code / 262144 % 8 + 240 < 256 by omega)
  have second := UInt8.toNat_ofNat_of_lt' (show code / 4096 % 64 + 128 < 256 by omega)
  have third := UInt8.toNat_ofNat_of_lt' (show code / 64 % 64 + 128 < 256 by omega)
  have fourth := UInt8.toNat_ofNat_of_lt' (show code % 64 + 128 < 256 by omega)
  have whole : (((code / 262144 % 8 + 240 - 0xF0) * 64 + (code / 4096 % 64 + 128 - 0x80)) * 64 +
    (code / 64 % 64 + 128 - 0x80)) * 64 + (code % 64 + 128 - 0x80) = code := by omega
  rw [decodeFrom_begin (by omega) (begin?_of_four (by omega) (by omega)),
    decodeFrom_extend (by dsimp only; split <;> omega) (by dsimp only; split <;> omega)
      (Nat.le_succ 2),
    decodeFrom_extend (by dsimp only [Partial.extend]; omega)
      (by dsimp only [Partial.extend]; omega) (Nat.le_refl 2),
    decodeFrom_complete (by dsimp only [Partial.extend]; omega)
      (by dsimp only [Partial.extend]; omega) rfl]
  dsimp only [Partial.extend]
  rw [first, second, third, fourth, whole]

/-- The bytes of a character are read as that character. -/
theorem decodeFrom_utf8EncodeChar_append (start : Nat) (char : Char) (rest : List UInt8) :
    ∃ after, decodeFrom start none (String.utf8EncodeChar char ++ rest) =
      (decodeFrom after none rest).map (char :: ·) := by
  have valid : char.val.toNat < 0xD800 ∨ 0xDFFF < char.val.toNat ∧ char.val.toNat < 0x110000 :=
    char.valid
  have same : Char.ofNat char.val.toNat = char := char.ofNat_toNat
  unfold String.utf8EncodeChar
  dsimp only
  generalize char.val.toNat = code at valid same ⊢
  subst same
  -- The code point tells how many bytes there are.
  split_ifs with ascii two three
  · have only := UInt8.toNat_ofNat_of_lt' (show code < 256 by omega)
    refine ⟨start + 1, ?_⟩
    rw [List.singleton_append, decodeFrom, if_pos (by omega), only]
  · exact ⟨start + 2, decodeFrom_two (by omega) (by omega) rest⟩
  · exact ⟨start + 3, decodeFrom_three (by omega) (by omega) (by omega) rest⟩
  · exact ⟨start + 4, decodeFrom_four (by omega) (by omega) rest⟩

/-- What is encoded is decoded again. -/
theorem decode_encode (text : Text) : decode (encode text) = .ok text := by
  -- The characters are read one after another, at whatever place the bytes begin.
  have general (start : Nat) : decodeFrom start none (encode text) = .ok text := by
    induction text generalizing start with
    | nil => rw [encode, List.flatMap_nil, decodeFrom]
    | cons char rest ih =>
      obtain ⟨after, read⟩ := decodeFrom_utf8EncodeChar_append start char (encode rest)
      rw [encode, List.flatMap_cons, ← encode, read, ih]
      rfl
  exact general 0

end Utf8

end Ddl
