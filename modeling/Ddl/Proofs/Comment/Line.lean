import Ddl.Proofs.Comment
import Ddl.Proofs.Text.Widened

/-! A line comment behind white space, or in front of it, leaves no trace in the normal form of a
statement, even where it stands inside of a block comment. -/

namespace Ddl

namespace BlockComment

variable {wide text : Text} {inside afterSpace : Bool}

/-- Additional white space neither closes a block comment nor hides its close. -/
theorem closes_widened (widened : Text.Widened afterSpace wide text) :
    closes wide = closes text := by
  rw [Bool.eq_iff_iff, closes_iff, closes_iff]
  exact widened.pair_iff (by decide) (by decide)

/-- Additional white space stays additional white space when block comments are left out, or it is
left out with them. What stands behind the close of a comment may then stand anywhere. -/
theorem widened_dropFrom (inside : Bool) (widened : Text.Widened afterSpace wide text) :
    Text.Widened (!inside && afterSpace) (dropFrom inside wide) (dropFrom inside text) := by
  have star : isSpace '*' = false := by decide
  have slash : isSpace '/' = false := by decide
  fun_induction dropFrom inside wide generalizing text afterSpace with
  | case1 inside =>
    cases widened with
    | ends => exact .ends (by cases inside <;> rfl)
  | case2 rest ih =>
    -- There is no white space in a close, so both texts have it.
    obtain ⟨_, rfl, begins⟩ := widened.exists_cons star
    obtain ⟨later, rfl, behind⟩ := begins.exists_cons slash
    have kept := ih behind
    rw [dropFrom]
    exact kept
  | case3 char rest other ih =>
    cases widened with
    | ends blank =>
      rw [Text.isBlank, List.all_cons, Bool.and_eq_true] at blank
      exact .ends (isBlank_dropFrom blank.2)
    | solid spaceless behind =>
      have kept := ih behind
      -- A close that begins here in one of the texts begins here in both.
      rw [dropFrom_true_cons (Text.apart_of_absent (behind.head?_iff slash).symm other)]
      exact kept
    | space blankFirst blankSecond behind =>
      have kept := ih behind
      rw [dropFrom_true_cons (.inl fun same => by simp [same, star] at blankSecond)]
      exact kept
    | more blank behind =>
      have kept := ih behind
      exact kept
  | case4 rest closed ih =>
    -- A comment that is closed in one of the texts is closed in both.
    obtain ⟨_, rfl, begins⟩ := widened.exists_cons slash
    obtain ⟨later, rfl, behind⟩ := begins.exists_cons star
    have kept := ih behind
    rw [dropFrom, if_pos (closes_widened behind ▸ closed)]
    exact kept.of_false
  | case5 rest unclosed =>
    -- Without a close everything is kept in both texts.
    obtain ⟨_, rfl, begins⟩ := widened.exists_cons slash
    obtain ⟨later, rfl, behind⟩ := begins.exists_cons star
    rw [dropFrom, if_neg (closes_widened behind ▸ unclosed)]
    exact .solid slash (.solid star behind)
  | case6 char rest other ih =>
    cases widened with
    | ends blank =>
      rw [Text.isBlank, List.all_cons, Bool.and_eq_true] at blank
      refine .ends ?_
      rw [Text.isBlank, List.all_cons, Bool.and_eq_true]
      exact ⟨blank.1, isBlank_dropFrom blank.2⟩
    | solid spaceless behind =>
      have kept := ih behind
      rw [dropFrom_cons (Text.apart_of_absent (behind.head?_iff star).symm other)]
      exact .solid spaceless kept
    | space blankFirst blankSecond behind =>
      have kept := ih behind
      rw [dropFrom_cons (.inl fun same => by simp [same, slash] at blankSecond)]
      exact .space blankFirst blankSecond kept
    | more blank behind =>
      have kept := ih behind
      exact .more blank kept

end BlockComment

namespace LineComment

variable {front : Text}

/-- A text in which no line comment begins is kept in front of others, unless it ends with half of
the beginning of one. -/
theorem drop_append (absent : ¬['-', '-'] <:+: front) (last : front.getLast? ≠ some '-')
    (rest : Text) : drop (front ++ rest) = front ++ drop rest := by
  induction front with
  | nil => rfl
  | cons char later ih =>
    rw [List.infix_cons_iff, Text.pair_prefix_cons, not_or] at absent
    -- Only the last character could begin a comment together with what stands behind.
    have single : char ≠ '-' ∨ (later ++ rest).head? ≠ some '-' := by
      cases later with
      | nil => exact .inl (by simpa using last)
      | cons first more =>
        by_contra both
        rw [not_or, not_not, not_not] at both
        exact absent.1 ⟨both.1.symm, both.2⟩
    have behind : later.getLast? ≠ some '-' := fun ends => last (by simp [List.getLast?_cons, ends])
    rw [drop, List.cons_append, dropFrom_cons single, ← drop, ih absent.2 behind, List.cons_append]

/-- A line comment is left out up to the line feed behind it. -/
theorem drop_comment {words : Text} (line : '\n' ∉ words) (rest : Text) :
    drop ('-' :: '-' :: (words ++ '\n' :: rest)) = '\n' :: drop rest := by
  -- The words of the comment are left out one by one.
  rw [drop, dropFrom]
  induction words with
  | nil => rw [List.nil_append, dropFrom, if_pos rfl, drop]
  | cons char later ih =>
    rw [List.mem_cons, not_or] at line
    rw [List.cons_append, dropFrom, if_neg (Ne.symm line.1), ih line.2]

end LineComment

open Written

variable {front words back : Text}

/-- White space stands on one side of a place, or one of the ends of the text is there. -/
def Loose (front back : Text) : Prop :=
  (∀ char ∈ front.getLast?, isSpace char = true) ∨ ∀ char ∈ back.head?, isSpace char = true

/-- A line feed at such a place is additional white space. -/
theorem widened_line_feed (loose : Loose front back) :
    Text.Widened true (front ++ '\n' :: back) (front ++ back) := by
  have feed : isSpace '\n' = true := by decide
  refine .append_left front ?_
  rcases loose with behind | before
  · -- Behind white space, or at the beginning, the line feed is more of it.
    have space : front.getLast?.elim true isSpace = true := by
      cases last : front.getLast? with
      | none => rfl
      | some char => exact behind char last
    rw [space]
    exact .more feed (.refl true back)
  · -- In front of white space it stands in its place, and the white space itself is more of it.
    cases back with
    | nil => exact .ends (by decide)
    | cons char later =>
      have blank : isSpace char = true := before char rfl
      exact .space feed blank (.more blank (.refl true later))

/-- Leaving out line comments keeps white space at the beginning. -/
theorem Loose.drop (loose : Loose front back) : Loose front (LineComment.drop back) := by
  -- White space at the beginning of the text begins no comment, and is kept.
  refine loose.imp_right fun before char first => ?_
  cases back with
  | nil => simp [LineComment.drop, LineComment.dropFrom] at first
  | cons head later =>
    have blank : isSpace head = true := before head rfl
    have apart : head ≠ '-' := fun same => absurd blank (by rw [same]; decide)
    rw [LineComment.drop, LineComment.dropFrom_cons (.inl apart)] at first
    obtain rfl : head = char := by simpa using first
    exact blank

/-- A line comment behind white space or in front of it, and also one at the beginning or the end,
leaves no trace in the normal form of a statement. The statement gives the same table, or the same
fault. -/
theorem normalize_line_comment (absent : ¬['-', '-'] <:+: front) (last : front.getLast? ≠ some '-')
    (line : '\n' ∉ words) (loose : Loose front back) :
    normalize (front ++ "--".toList ++ words ++ '\n' :: back) = normalize (front ++ back) ∧
      Table.ofStatement (front ++ "--".toList ++ words ++ '\n' :: back) =
        Table.ofStatement (front ++ back) := by
  -- Only the line feed is left of the comment, which is additional white space.
  have whole : front ++ "--".toList ++ words ++ '\n' :: back =
      front ++ '-' :: '-' :: (words ++ '\n' :: back) := by simp
  have widened := BlockComment.widened_dropFrom false (widened_line_feed loose.drop)
  have same : normalize (front ++ "--".toList ++ words ++ '\n' :: back) =
      normalize (front ++ back) := by
    rw [whole, normalize, LineComment.drop_append absent last, LineComment.drop_comment line,
      normalize, LineComment.drop_append absent last]
    exact widened.trim_collapse
  exact ⟨same, by rw [Table.ofStatement, same, ← Table.ofStatement]⟩

/-- A line comment in an open block comment does not close it, and opens no other one. -/
theorem normalize_line_comment_in_block :
    ¬['-', '-'] <:+: "CREATE TABLE t (id INT /* key ".toList ∧
      "CREATE TABLE t (id INT /* key ".toList.getLast? ≠ some '-' ∧ '\n' ∉ " */ ', /*".toList ∧
      Loose "CREATE TABLE t (id INT /* key ".toList "*/ )".toList ∧
      Table.ofStatement "CREATE TABLE t (id INT /* key -- */ ', /*\n*/ )".toList =
        Table.ofStatement "CREATE TABLE t (id INT /* key */ )".toList := by
  -- The signs in the comment are left out with it before block comments are looked at.
  have absent : ¬['-', '-'] <:+: "CREATE TABLE t (id INT /* key ".toList := by decide +kernel
  have last : "CREATE TABLE t (id INT /* key ".toList.getLast? ≠ some '-' := by decide
  have line : '\n' ∉ " */ ', /*".toList := by decide
  have loose : Loose "CREATE TABLE t (id INT /* key ".toList "*/ )".toList := by
    refine .inl ?_
    rintro char ⟨⟩
    decide
  exact ⟨absent, last, line, loose, (normalize_line_comment absent last line loose).2⟩

end Ddl
