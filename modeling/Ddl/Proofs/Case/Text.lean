import Ddl.Proofs.Comment
import Mathlib.Data.List.Forall2

/-! A text in small ASCII letters has its white space, its comments, its commas and its parentheses
where the text has them. -/

namespace Ddl

/-- Small letters have all properties that the capital letters have. -/
theorem toLower_congr {α : Type} {property : Char → α}
    (capitals : ∀ code < 91, 65 ≤ code →
      property (Char.ofNat code).toLower = property (Char.ofNat code)) (char : Char) :
    property char.toLower = property char := by
  by_cases capital : char.val ≥ 'A'.val ∧ char.val ≤ 'Z'.val
  · have above : 65 ≤ char.toNat := capital.1
    have below : char.toNat ≤ 90 := capital.2
    have same := capitals char.toNat (by omega) above
    rwa [Char.ofNat_toNat] at same
  · -- Every other character is its own small letter.
    have same : char.toLower = char := dif_neg capital
    rw [same]

/-- White space has no case. -/
@[simp] theorem isSpace_toLower (char : Char) : isSpace char.toLower = isSpace char :=
  toLower_congr (by decide +kernel) char

/-- Letters stay word characters in small letters, and no other character becomes one. -/
@[simp] theorem isWord_toLower (char : Char) : isWord char.toLower = isWord char :=
  toLower_congr (by decide +kernel) char

/-- Quotes have no case. -/
@[simp] theorem isQuote_toLower (char : Char) :
    CharClass.isQuote char.toLower = CharClass.isQuote char :=
  toLower_congr (by decide +kernel) char

/-- A small letter is matched like its capital letter. -/
@[simp] theorem capitalOf_toLower (char : Char) :
    CharClass.capitalOf char.toLower = CharClass.capitalOf char :=
  toLower_congr (by decide +kernel) char

/-- No letter becomes another character, and no other character becomes a letter. -/
theorem toLower_eq_iff {char mark : Char} (isMark : mark.isAlpha = false) :
    char.toLower = mark ↔ char = mark := by
  have moved : char.toLower = char ∨ (char.toLower.isAlpha = true ∧ char.isAlpha = true) := by
    by_cases capital : char.val ≥ 'A'.val ∧ char.val ≤ 'Z'.val
    · have letters : ∀ code < 91, 65 ≤ code → (Char.ofNat code).toLower.isAlpha = true ∧
          (Char.ofNat code).isAlpha = true := by decide +kernel
      have above : 65 ≤ char.toNat := capital.1
      have below : char.toNat ≤ 90 := capital.2
      have letter := letters char.toNat (by omega) above
      rw [Char.ofNat_toNat] at letter
      exact .inr letter
    · exact .inl (dif_neg capital)
  rcases moved with same | ⟨small, letter⟩
  · rw [same]
  · -- A letter is no such mark, neither before nor after.
    constructor <;> rintro rfl
    · simp [isMark] at small
    · simp [isMark] at letter

namespace Text

variable {text : Text}

/-- The text in small ASCII letters. -/
def lower (text : Text) : Text :=
  text.map Char.toLower

/-- Nothing stays nothing. -/
@[simp] theorem lower_nil : lower [] = [] := rfl

/-- The characters are made small one by one. -/
@[simp] theorem lower_cons (char : Char) (rest : Text) :
    lower (char :: rest) = char.toLower :: rest.lower := rfl

/-- No character is lost or added. -/
@[simp] theorem length_lower (text : Text) : text.lower.length = text.length := List.length_map _

/-- Two characters are the same, or they are the same ASCII letter in two cases. -/
def SameLetter (first second : Char) : Prop :=
  first.toLower = second.toLower

/-- Two texts have the same length and differ only in the case of ASCII letters. -/
def SameLetters (first second : Text) : Prop :=
  List.Forall₂ SameLetter first second

/-- Such texts are the same in small letters. -/
theorem sameLetters_iff {first second : Text} :
    SameLetters first second ↔ first.lower = second.lower := by
  rw [← List.forall₂_eq_eq_eq, lower, lower, List.forall₂_map_left_iff, List.forall₂_map_right_iff]
  rfl

/-- A mark stands at the beginning of a text when it stands there in small letters. -/
theorem head?_lower {mark : Char} (isMark : mark.isAlpha = false) :
    text.lower.head? = some mark ↔ text.head? = some mark := by
  cases text with
  | nil => rfl
  | cons char rest => simpa using toLower_eq_iff isMark

/-- Two marks that do not begin a text do not begin it in small letters. -/
theorem apart_lower {first second char : Char} {rest : Text} (isFirst : first.isAlpha = false)
    (isSecond : second.isAlpha = false)
    (apart : ∀ later, char = first → rest = second :: later → False) :
    char.toLower ≠ first ∨ rest.lower.head? ≠ some second := by
  rw [ne_eq, toLower_eq_iff isFirst]
  exact apart_of_absent (head?_lower isSecond) apart

/-- What does not look at the case trims the same characters. -/
theorem trimBy_lower {drops : Char → Bool} (blind : ∀ char, drops char.toLower = drops char)
    (text : Text) : trimBy drops text.lower = (trimBy drops text).lower := by
  have same : drops ∘ Char.toLower = drops := funext blind
  rw [trimBy, trimBy, trimEndBy, trimEndBy, lower, List.dropWhile_map, same, ← List.map_reverse,
    List.dropWhile_map, same, ← List.map_reverse, lower]

/-- White space is trimmed from small letters as from others. -/
theorem trim_lower (text : Text) : text.lower.trim = text.trim.lower :=
  trimBy_lower isSpace_toLower text

/-- A text is blank in small letters when it is blank. -/
theorem isBlank_lower (text : Text) : text.lower.isBlank = text.isBlank := by
  simp [isBlank, lower, List.all_map, Function.comp_def]

/-- White space is collapsed in small letters as in others. -/
theorem collapseFrom_lower (afterSpace : Bool) (text : Text) :
    collapseFrom afterSpace text.lower = (collapseFrom afterSpace text).lower := by
  have space : ' '.toLower = ' ' := by decide
  fun_induction collapseFrom afterSpace text <;> simp_all [collapseFrom]

end Text

open Text

variable {text : Text}

namespace LineComment

/-- Line comments are left out of small letters as of others. -/
theorem dropFrom_lower (inside : Bool) (text : Text) :
    dropFrom inside text.lower = (dropFrom inside text).lower := by
  have feed : ∀ {char : Char}, char.toLower = '\n' ↔ char = '\n' := toLower_eq_iff (by decide)
  have hyphen : ∀ {char : Char}, char.toLower = '-' ↔ char = '-' := toLower_eq_iff (by decide)
  fun_induction dropFrom inside text with
  | case1 => rw [lower_nil, dropFrom]
  | case2 rest ih => simp [dropFrom, feed.mpr rfl, ih]
  | case3 char rest other ih => simp [dropFrom, feed, other, ih]
  | case4 rest ih => simp [dropFrom, hyphen.mpr rfl, ih]
  | case5 char rest other ih =>
    -- No comment begins here in either of the texts.
    rw [lower_cons, dropFrom_cons (apart_lower (by decide) (by decide) other), ih, lower_cons]

end LineComment

namespace BlockComment

/-- A block comment is closed in small letters when it is closed. -/
theorem closes_lower (text : Text) : closes text.lower = closes text := by
  -- The signs that close it are no letters.
  have star : ∀ {char : Char}, char.toLower = '*' ↔ char = '*' := toLower_eq_iff (by decide)
  induction text with
  | nil => rfl
  | cons char rest ih =>
    rw [Bool.eq_iff_iff, closes_iff, closes_iff] at ih ⊢
    rw [lower_cons, List.infix_cons_iff, List.infix_cons_iff, pair_prefix_cons, pair_prefix_cons,
      eq_comm, star, eq_comm, head?_lower (by decide)]
    exact or_congr_right ih

/-- Block comments are left out of small letters as of others. -/
theorem dropFrom_lower (inside : Bool) (text : Text) :
    dropFrom inside text.lower = (dropFrom inside text).lower := by
  have star : ∀ {char : Char}, char.toLower = '*' ↔ char = '*' := toLower_eq_iff (by decide)
  have slash : ∀ {char : Char}, char.toLower = '/' ↔ char = '/' := toLower_eq_iff (by decide)
  -- Each case of the definition looks at signs that have no case.
  fun_induction dropFrom inside text with
  | case1 => rw [lower_nil, dropFrom]
  | case2 rest ih => simp [dropFrom, star.mpr rfl, slash.mpr rfl, ih]
  | case3 char rest other ih =>
    rw [lower_cons, dropFrom_true_cons (apart_lower (by decide) (by decide) other), ih]
  | case4 rest closed ih => simp [dropFrom, star.mpr rfl, slash.mpr rfl, closes_lower, closed, ih]
  | case5 rest unclosed =>
    simp [dropFrom, star.mpr rfl, slash.mpr rfl, closes_lower, unclosed]
  | case6 char rest other ih =>
    rw [lower_cons, dropFrom_cons (apart_lower (by decide) (by decide) other), ih, lower_cons]

end BlockComment

/-- The normal form of small letters is the normal form in small letters. -/
theorem normalize_lower (text : Text) : normalize text.lower = (normalize text).lower := by
  rw [normalize, normalize, LineComment.drop, LineComment.drop, LineComment.dropFrom_lower,
    BlockComment.drop, BlockComment.drop, BlockComment.dropFrom_lower, collapse, collapse,
    collapseFrom_lower, trim_lower]

namespace CommaList

/-- The parts of a list are cut at the same commas. -/
theorem partsFrom_lower (depth : Int) (text : Text) : partsFrom depth text.lower =
    ((partsFrom depth text).1.lower, (partsFrom depth text).2.map lower) := by
  have same : ∀ {mark char : Char}, mark.isAlpha = false → (char.toLower = mark ↔ char = mark) :=
    toLower_eq_iff
  -- Neither the depth nor the comma depends on the case of a character.
  induction text generalizing depth with
  | nil => rfl
  | cons char rest ih =>
    have deeper : deepening char.toLower = deepening char := by
      simp only [deepening, same (by decide : '('.isAlpha = false),
        same (by decide : ')'.isAlpha = false)]
    rw [lower_cons, partsFrom, partsFrom, deeper, ih, ih]
    by_cases comma : char = ',' ∧ depth = 0 <;>
      simp [comma, same (by decide : ','.isAlpha = false)]

/-- A list in small letters is split into its parts in small letters. -/
theorem split_lower (text : Text) : split text.lower = (split text).map lower := by
  -- The last part is blank in small letters when it is blank.
  have whole : parts text.lower = (parts text).map lower := by
    rw [parts, partsFrom_lower]
    rfl
  have last : (parts text.lower).getLast?.elim true isBlank =
      (parts text).getLast?.elim true isBlank := by
    rw [whole, List.getLast?_map]
    cases (parts text).getLast? <;> simp [isBlank_lower]
  simp only [split, last]
  split
  · rw [whole, List.map_dropLast]
  · exact whole

end CommaList

end Ddl
