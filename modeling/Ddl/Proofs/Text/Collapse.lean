import Ddl.Normal
import Ddl.Proofs.Text.Trim

/-! Collapsing and trimming keep the characters that are no white space, and also which of them are
neighbours. -/

namespace Ddl

namespace Text

variable {text back : Text} {first second : Char} {afterSpace : Bool}

/-- White space that goes on does not show when it is collapsed. -/
theorem collapseFrom_double_space (afterSpace : Bool) (front back : Text) :
    collapseFrom afterSpace (front ++ ' ' :: ' ' :: back) =
      collapseFrom afterSpace (front ++ ' ' :: back) := by
  -- The two spaces follow what stands in front of them, and the second follows the first.
  have space : isSpace ' ' = true := by decide
  induction front generalizing afterSpace with
  | nil => cases afterSpace <;> simp [collapseFrom, space]
  | cons char front ih => simp only [List.cons_append, collapseFrom, ih]

/-- White space is collapsed on both sides of another character apart from each other. -/
theorem collapseFrom_append_cons {char : Char} (solid : isSpace char = false) (afterSpace : Bool)
    (front back : Text) : collapseFrom afterSpace (front ++ char :: back) =
      collapseFrom afterSpace front ++ char :: collapseFrom false back := by
  fun_induction collapseFrom afterSpace front <;> simp_all [collapseFrom]

/-- Collapsing changes white space alone. -/
theorem filter_collapseFrom (afterSpace : Bool) (text : Text) :
    (collapseFrom afterSpace text).filter (!isSpace ·) = text.filter (!isSpace ·) := by
  have space : isSpace ' ' = true := by decide
  fun_induction collapseFrom afterSpace text <;> simp_all

/-- Trimming takes off white space alone. -/
theorem filter_trim (text : Text) : text.trim.filter (!isSpace ·) = text.filter (!isSpace ·) := by
  -- What is trimmed off has no other characters.
  obtain ⟨before, after, whole, blankBefore, blankAfter⟩ := exists_trim text
  have none : ∀ {space : Text}, space.isBlank = true → space.filter (!isSpace ·) = [] := by
    intro space blank
    simpa [List.filter_eq_nil_iff] using fun char => isSpace_of_isBlank blank
  conv => rhs; rw [whole]
  rw [List.filter_append, List.filter_append, none blankBefore, none blankAfter, List.nil_append,
    List.append_nil]

/-- The first character of a collapsed text is the one of the text, if it is no white space. -/
theorem head?_collapseFrom (solid : isSpace first = false) :
    (collapseFrom false text).head? = some first ↔ text.head? = some first := by
  have space : isSpace ' ' = true := by decide
  cases text with
  | nil => rfl
  | cons char rest =>
    by_cases blank : isSpace char = true
    · -- White space stays white space.
      have others : ' ' ≠ first ∧ char ≠ first := by
        constructor <;> rintro rfl <;> simp_all
      simp [collapseFrom, blank, others]
    · simp [collapseFrom, blank]

/-- A text begins with two characters when the first is its own and the rest begins with the second.
-/
theorem pair_prefix_cons {char : Char} {rest : Text} :
    [first, second] <+: char :: rest ↔ first = char ∧ rest.head? = some second := by
  cases rest <;> simp [List.cons_prefix_cons, eq_comm]

/-- Neighbours stay neighbours, and no others become ones. -/
theorem pair_collapseFrom (solidFirst : isSpace first = false)
    (solidSecond : isSpace second = false) :
    [first, second] <:+: collapseFrom afterSpace text ↔ [first, second] <:+: text := by
  have space : isSpace ' ' = true := by decide
  -- White space is no part of the pair, and so it only stands between other characters.
  have apart : ∀ {char : Char} {rest : Text}, isSpace char = true →
      ([first, second] <:+: char :: rest ↔ [first, second] <:+: rest) := by
    intro char rest blank
    rw [List.infix_cons_iff, pair_prefix_cons, or_iff_right]
    rintro ⟨rfl, _⟩
    simp [blank] at solidFirst
  fun_induction collapseFrom afterSpace text with
  | case1 => rfl
  | case2 char rest blank ih => exact ih.trans (apart blank).symm
  | case3 _ char rest blank _ ih => exact (apart space).trans (ih.trans (apart blank).symm)
  | case4 _ char rest _ ih =>
    rw [List.infix_cons_iff, List.infix_cons_iff, pair_prefix_cons, pair_prefix_cons,
      head?_collapseFrom solidSecond]
    exact or_congr_right ih

/-- Neighbours stay neighbours when white space is taken off in front of them. -/
theorem pair_dropWhile (solidFirst : isSpace first = false) :
    [first, second] <:+: text.dropWhile isSpace ↔ [first, second] <:+: text := by
  -- A pair does not begin with white space.
  induction text with
  | nil => rfl
  | cons char rest ih =>
    by_cases blank : isSpace char = true
    · rw [List.dropWhile_cons_of_pos blank, ih, List.infix_cons_iff, pair_prefix_cons, or_iff_right]
      rintro ⟨rfl, _⟩
      simp [blank] at solidFirst
    · rw [List.dropWhile_cons_of_neg blank]

/-- Neighbours stay neighbours when white space is taken off at both ends. -/
theorem pair_trim (solidFirst : isSpace first = false) (solidSecond : isSpace second = false) :
    [first, second] <:+: text.trim ↔ [first, second] <:+: text := by
  -- From the back the second one comes first.
  have swap : [first, second] = [second, first].reverse := rfl
  rw [trim, trimBy, trimEndBy, swap, List.reverse_infix, pair_dropWhile solidSecond,
    ← List.reverse_infix, List.reverse_reverse, ← swap, pair_dropWhile solidFirst]

/-- The layout of a text is a matter of white space alone. -/
theorem filter_trim_collapse (text : Text) :
    text.collapse.trim.filter (!isSpace ·) = text.filter (!isSpace ·) :=
  (filter_trim _).trans (filter_collapseFrom false text)

/-- Neighbours do not depend on the layout of a text. -/
theorem pair_trim_collapse (solidFirst : isSpace first = false)
    (solidSecond : isSpace second = false) :
    [first, second] <:+: text.collapse.trim ↔ [first, second] <:+: text :=
  (pair_trim solidFirst solidSecond).trans (pair_collapseFrom solidFirst solidSecond)

end Text

end Ddl
