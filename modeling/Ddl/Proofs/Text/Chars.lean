import Ddl.Pattern.CharClass
import Mathlib.Tactic.SplitIfs

/-! No character belongs to two of white space, words and quotes, and letters stand in words. -/

namespace Ddl

/-- A code point that is covered lies in one of the ranges. -/
theorem CodeRange.exists_of_cover {ranges : List CodeRange} {code : Nat}
    (covered : cover ranges code = true) :
    ∃ range ∈ ranges, range.first ≤ code ∧ code ≤ range.last := by
  -- The ranges are tried in order, and each of them is above those before.
  induction ranges with
  | nil => simp [cover] at covered
  | cons range later ih =>
    unfold cover at covered
    split at covered
    · simp at covered
    · rename_i above
      split at covered
      · exact ⟨range, List.mem_cons_self, by omega, by omega⟩
      · obtain ⟨found, member, bounds⟩ := ih covered
        exact ⟨found, List.mem_cons_of_mem _ member, bounds⟩

/-- White space is not among the ranges of word characters. -/
theorem isWord_of_isSpace {char : Char} (space : isSpace char = true) : isWord char = false := by
  -- There are few code points of white space, and each of them is looked up.
  let codes := [0x9, 0xA, 0xB, 0xC, 0xD, 0x1C, 0x1D, 0x1E, 0x1F, 0x20, 0x85, 0xA0, 0x1680, 0x2000,
    0x2001, 0x2002, 0x2003, 0x2004, 0x2005, 0x2006, 0x2007, 0x2008, 0x2009, 0x200A, 0x2028, 0x2029,
    0x202F, 0x205F, 0x3000]
  have listed : char.toNat ∈ codes := by
    obtain ⟨range, member, above, below⟩ := CodeRange.exists_of_cover space
    simp only [spaceRanges, List.mem_cons, List.not_mem_nil, or_false] at member
    simp only [codes, List.mem_cons, List.not_mem_nil, or_false]
    rcases member with rfl | rfl | rfl | rfl | rfl | rfl | rfl | rfl | rfl | rfl <;>
      dsimp only at above below <;> omega
  -- The ranges of word characters pass over all of them.
  have none : ∀ code ∈ codes, isWord (Char.ofNat code) = false := by decide +kernel
  have found := none char.toNat listed
  rwa [Char.ofNat_toNat] at found

/-- Word characters are no white space. -/
theorem isSpace_of_isWord {char : Char} (word : isWord char = true) : isSpace char = false := by
  cases space : isSpace char with
  | false => rfl
  | true => simp [isWord_of_isSpace space] at word

/-- The two quotes are neither word characters nor white space. -/
theorem isQuote_iff {char : Char} : CharClass.isQuote char = true ↔ char = '"' ∨ char = '\'' := by
  simp [CharClass.isQuote]

/-- Word characters are no quotes. -/
theorem isQuote_of_isWord {char : Char} (word : isWord char = true) :
    CharClass.isQuote char = false := by
  -- There are two quotes, and neither is a word character.
  cases quote : CharClass.isQuote char with
  | false => rfl
  | true =>
    rcases isQuote_iff.mp quote with rfl | rfl
    · exact absurd word (by decide)
    · exact absurd word (by decide)

/-- Quotes are no word characters. -/
theorem isWord_of_isQuote {char : Char} (quote : CharClass.isQuote char = true) :
    isWord char = false := by
  cases word : isWord char with
  | false => rfl
  | true => simp [isQuote_of_isWord word] at quote

/-- Quotes are no white space. -/
theorem isSpace_of_isQuote {char : Char} (quote : CharClass.isQuote char = true) :
    isSpace char = false := by
  rcases isQuote_iff.mp quote with rfl | rfl <;> decide

/-- White space is no quote. -/
theorem isQuote_of_isSpace {char : Char} (space : isSpace char = true) :
    CharClass.isQuote char = false := by
  cases quote : CharClass.isQuote char with
  | false => rfl
  | true => simp [isSpace_of_isQuote quote] at space

/-- Whatever stands for a capital letter is a word character. -/
theorem isWord_of_capitalOf {char : Char} (letter : (CharClass.capitalOf char).isUpper = true) :
    isWord char = true := by
  have ascii : ∀ code < 123, 65 ≤ code → (code ≤ 90 ∨ 97 ≤ code) →
      isWord (Char.ofNat code) = true := by decide +kernel
  have others : ∀ code ∈ [0x130, 0x131, 0x17F, 0x212A], isWord (Char.ofNat code) = true := by
    decide +kernel
  rw [← Char.ofNat_toNat char]
  -- The character is a small letter, one of the four others, or a capital letter itself.
  unfold CharClass.capitalOf at letter
  split_ifs at letter with small oddI longS kelvin
  · -- A small letter has its own code point among those of ASCII.
    have above : 97 ≤ char.toNat := small.1
    have below : char.toNat ≤ 122 := small.2
    exact ascii _ (by omega) (by omega) (by omega)
  · exact others _ (by simp only [List.mem_cons]; omega)
  · exact others _ (by simp [longS])
  · exact others _ (by simp [kelvin])
  · obtain ⟨above, below⟩ : 65 ≤ char.toNat ∧ char.toNat ≤ 90 := of_decide_eq_true letter
    exact ascii _ (by omega) (by omega) (by omega)

/-- For ASCII letters patterns have the usual capital letters. -/
theorem capitalOf_eq_toUpper_of_lt {char : Char} (ascii : char.toNat < 128) :
    CharClass.capitalOf char = char.toUpper := by
  -- The characters are looked at one by one.
  have all : ∀ code < 128, CharClass.capitalOf (Char.ofNat code) = (Char.ofNat code).toUpper := by
    decide +kernel
  have found := all char.toNat ascii
  rwa [Char.ofNat_toNat] at found

/-- Patterns ignore the case of ASCII letters. -/
theorem capitalOf_eq_toUpper {char : Char} (letter : char.toUpper.isUpper = true) :
    CharClass.capitalOf char = char.toUpper := by
  refine capitalOf_eq_toUpper_of_lt ?_
  by_cases small : 'a'.val ≤ char.val ∧ char.val ≤ 'z'.val
  · have below : char.toNat ≤ 122 := small.2
    omega
  · -- What is not a small letter stands for itself.
    have same : char.toUpper = char := dif_neg small
    rw [same] at letter
    obtain ⟨-, below⟩ : 65 ≤ char.toNat ∧ char.toNat ≤ 90 := of_decide_eq_true letter
    omega

/-- Only three capital letters stand for letters outside ASCII. -/
theorem toUpper_eq_capitalOf {char : Char} (letter : (CharClass.capitalOf char).isUpper = true)
    (plain : CharClass.capitalOf char ≠ 'I' ∧ CharClass.capitalOf char ≠ 'S' ∧
      CharClass.capitalOf char ≠ 'K') : char.toUpper = CharClass.capitalOf char := by
  refine (capitalOf_eq_toUpper_of_lt ?_).symm
  unfold CharClass.capitalOf at letter plain
  split_ifs at letter plain with small
  · have below : char.toNat ≤ 122 := small.2
    omega
  · simp at plain
  · simp at plain
  · simp at plain
  · -- A character that stands for itself is a capital letter.
    obtain ⟨-, below⟩ : 65 ≤ char.toNat ∧ char.toNat ≤ 90 := of_decide_eq_true letter
    omega

end Ddl
