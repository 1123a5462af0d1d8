import Ddl.Proofs.Text.Collapse

/-! White space that is added next to other white space, or at the ends of a text, does not show
when the text is collapsed and trimmed. -/

namespace Ddl

namespace Text

/-- The first text is the second one with more white space, told whether white space came before. -/
inductive Widened : Bool → Text → Text → Prop
  /-- At the end there can be white space in front of nothing. -/
  | ends {afterSpace : Bool} {space : Text} (blank : space.isBlank = true) :
    Widened afterSpace space []
  /-- Other characters are the same in both texts. -/
  | solid {afterSpace : Bool} {char : Char} {wide text : Text} (spaceless : isSpace char = false)
    (rest : Widened false wide text) : Widened afterSpace (char :: wide) (char :: text)
  /-- White space can be of another kind. -/
  | space {afterSpace : Bool} {first second : Char} {wide text : Text}
    (blankFirst : isSpace first = true) (blankSecond : isSpace second = true)
    (rest : Widened true wide text) : Widened afterSpace (first :: wide) (second :: text)
  /-- Behind white space there can be more of it. -/
  | more {char : Char} {wide text : Text} (blank : isSpace char = true)
    (rest : Widened true wide text) : Widened true (char :: wide) text

variable {wide text front : Text} {char first second : Char} {afterSpace : Bool}

/-- A text has no more white space than itself. -/
theorem Widened.refl (afterSpace : Bool) (text : Text) : Widened afterSpace text text := by
  -- Each character is kept, as a visible one or as white space.
  induction text generalizing afterSpace with
  | nil => exact .ends rfl
  | cons char rest ih =>
    cases blank : isSpace char with
    | false => exact .solid blank (ih false)
    | true => exact .space blank blank (ih true)

/-- What is not allowed to begin with more white space may also stand behind white space. -/
theorem Widened.of_false (widened : Widened false wide text) : Widened afterSpace wide text := by
  -- None of the three ways asks for white space before.
  cases widened with
  | ends blank => exact .ends blank
  | solid spaceless rest => exact .solid spaceless rest
  | space blankFirst blankSecond rest => exact .space blankFirst blankSecond rest

/-- The same text in front tells whether white space comes before. -/
theorem Widened.append_left (front : Text)
    (rest : Widened (front.getLast?.elim afterSpace isSpace) wide text) :
    Widened afterSpace (front ++ wide) (front ++ text) := by
  -- The characters in front are the same in both texts, one by one.
  induction front generalizing afterSpace with
  | nil => exact rest
  | cons char later ih =>
    have behind : Widened (isSpace char) (later ++ wide) (later ++ text) := by
      refine ih ?_
      cases last : later.getLast? <;> simpa [List.getLast?_cons, last] using rest
    cases blank : isSpace char with
    | false => exact .solid blank (blank ▸ behind)
    | true => exact .space blank blank (blank ▸ behind)

/-- A visible character in front is in front of both texts. -/
theorem Widened.exists_cons (widened : Widened afterSpace (char :: wide) text)
    (spaceless : isSpace char = false) : ∃ rest, text = char :: rest ∧ Widened false wide rest := by
  -- The other ways begin with white space.
  cases widened with
  | ends blank =>
    have space := isSpace_of_isBlank blank List.mem_cons_self
    simp [space] at spaceless
  | solid _ rest => exact ⟨_, rfl, rest⟩
  | space blank => simp [blank] at spaceless
  | more blank => simp [blank] at spaceless

/-- Behind other characters both texts go on with the same character, if it is no white space. -/
theorem Widened.head?_iff (widened : Widened false wide text) (spaceless : isSpace char = false) :
    wide.head? = some char ↔ text.head? = some char := by
  have other : ∀ {blank : Char}, isSpace blank = true → blank ≠ char := by
    rintro blank space rfl
    simp [space] at spaceless
  cases widened with
  | ends blank =>
    cases wide with
    | nil => rfl
    -- What is left is white space only, which is no such character.
    | cons first later => simp [other (isSpace_of_isBlank blank List.mem_cons_self)]
  | solid _ rest => rfl
  | space blankFirst blankSecond rest => simp [other blankFirst, other blankSecond]

/-- White space is collapsed to white space. -/
theorem isBlank_collapseFrom (blank : text.isBlank = true) :
    (collapseFrom afterSpace text).isBlank = true := by
  have space : isSpace ' ' = true := by decide
  rw [isBlank, List.all_eq_true] at *
  fun_induction collapseFrom afterSpace text <;> simp_all

/-- Collapsing takes away all additional white space but the one at the end. -/
theorem Widened.exists_collapseFrom (widened : Widened afterSpace wide text) :
    ∃ space : Text, space.isBlank = true ∧
      collapseFrom afterSpace wide = collapseFrom afterSpace text ++ space := by
  induction widened with
  | @ends afterSpace space blank =>
    exact ⟨collapseFrom afterSpace space, isBlank_collapseFrom blank, by simp [collapseFrom]⟩
  | solid spaceless _ ih =>
    obtain ⟨space, blank, same⟩ := ih
    -- Both texts keep the character.
    exact ⟨space, blank, by simp [collapseFrom, spaceless, same]⟩
  | @space afterSpace _ _ _ _ blankFirst blankSecond _ ih =>
    obtain ⟨space, blank, same⟩ := ih
    -- White space of both kinds becomes one space, or nothing behind other white space.
    exact ⟨space, blank, by cases afterSpace <;> simp [collapseFrom, blankFirst, blankSecond, same]⟩
  | more blankChar _ ih =>
    obtain ⟨space, blank, same⟩ := ih
    -- It stands behind other white space, so it is left out.
    exact ⟨space, blank, by simp [collapseFrom, blankChar, same]⟩

/-- It does not show at the beginning whether white space came before. -/
theorem trim_collapseFrom (afterSpace : Bool) (text : Text) :
    (collapseFrom afterSpace text).trim = text.collapse.trim := by
  cases afterSpace with
  | false => rfl
  | true =>
    cases text with
    | nil => rfl
    | cons char rest =>
      cases blank : isSpace char with
      | false => simp [collapse, collapseFrom, blank]
      | true =>
        -- One of the texts has a space in front, which is trimmed.
        have same : trim ([' '] ++ (collapseFrom true rest ++ [])) =
            (collapseFrom true rest).trim := trim_between_blanks (by decide) rfl _
        simpa [collapse, collapseFrom, blank, eq_comm] using same

/-- Additional white space is removed together with the other white space. -/
theorem Widened.trim_collapse (widened : Widened afterSpace wide text) :
    wide.collapse.trim = text.collapse.trim := by
  -- The two collapsed texts differ in white space at the end, which is trimmed off.
  obtain ⟨space, blank, same⟩ := widened.exists_collapseFrom
  have trimmed : trim ([] ++ (collapseFrom afterSpace text ++ space)) =
      (collapseFrom afterSpace text).trim := trim_between_blanks rfl blank _
  rw [← trim_collapseFrom afterSpace wide, same, ← trim_collapseFrom afterSpace text]
  exact trimmed

/-- Additional white space does not come between characters that are no white space. -/
theorem Widened.pair_iff (widened : Widened afterSpace wide text)
    (solidFirst : isSpace first = false) (solidSecond : isSpace second = false) :
    [first, second] <:+: wide ↔ [first, second] <:+: text := by
  rw [← pair_trim_collapse solidFirst solidSecond, widened.trim_collapse,
    pair_trim_collapse solidFirst solidSecond]

/-- White space in front is additional behind other white space and at the beginning. -/
theorem Widened.blank_append {space : Text} (blank : space.isBlank = true)
    (widened : Widened true wide text) : Widened true (space ++ wide) text := by
  -- Each character of the white space is an additional one.
  induction space with
  | nil => exact widened
  | cons char later ih =>
    rw [isBlank, List.all_cons, Bool.and_eq_true] at blank
    exact .more blank.1 (ih blank.2)

/-- White space behind a text is additional. -/
theorem widened_append_blank (afterSpace : Bool) (text : Text) {space : Text}
    (blank : space.isBlank = true) : Widened afterSpace (text ++ space) text := by
  have behind : Widened afterSpace (text ++ space) (text ++ []) := .append_left text (.ends blank)
  rwa [List.append_nil] at behind

/-- A text is its trimmed form with additional white space. -/
theorem widened_trim (text : Text) : Widened true text text.trim := by
  obtain ⟨before, after, whole, blankBefore, blankAfter⟩ := exists_trim text
  have around := (widened_append_blank true text.trim blankAfter).blank_append blankBefore
  rwa [← whole] at around

/-- A text is its collapsed form with white space of other kinds and with more of it. -/
theorem widened_collapseFrom (afterSpace : Bool) (text : Text) :
    Widened afterSpace text (collapseFrom afterSpace text) := by
  have space : isSpace ' ' = true := by decide
  fun_induction collapseFrom afterSpace text with
  | case1 => exact .ends rfl
  -- Behind other white space nothing is left of it.
  | case2 char rest blank ih => exact .more blank ih
  | case3 afterSpace char rest blank outside ih => exact .space blank space ih
  | case4 afterSpace char rest solid ih => exact .solid (Bool.eq_false_iff.mpr solid) ih

end Text

end Ddl
