import Ddl.Proofs.Comment.Quoted
import Ddl.Proofs.Text.Single

/-! Leaving out comments shortens a text exactly when a line comment begins in it, or a block
comment that is closed stands in it. Such comments are neither made nor lost when white space is
collapsed. -/

namespace Ddl

variable {text rest front back : Text} {char first second : Char} {inside : Bool}

/-- Neighbours in two texts are neighbours in one of them, or they meet where the texts meet. -/
theorem Text.pair_append_iff : [first, second] <:+: front ++ back ↔ [first, second] <:+: front ∨
    (front.getLast? = some first ∧ back.head? = some second) ∨ [first, second] <:+: back := by
  induction front with
  | nil => simp
  | cons char later ih =>
    rw [List.cons_append, List.infix_cons_iff, List.infix_cons_iff, pair_prefix_cons,
      pair_prefix_cons, ih]
    cases later with
    | nil =>
      -- The only character in front is the last one.
      have last : first = char ↔ [char].getLast? = some first := by simp [eq_comm]
      rw [last]
      simp
    | cons next more => simp [List.getLast?_cons_cons, or_assoc]

namespace LineComment

/-- What is left of a text has no beginning of a line comment. -/
theorem not_pair_dropFrom : ¬['-', '-'] <:+: dropFrom inside text := by
  fun_induction dropFrom inside text with
  | case1 => simp
  | case2 rest ih =>
    rw [List.infix_cons_iff, Text.pair_prefix_cons, not_or]
    exact ⟨by simp, ih⟩
  | case3 char rest _ ih => exact ih
  | case4 rest ih => exact ih
  | case5 char rest other ih =>
    rw [List.infix_cons_iff, Text.pair_prefix_cons, not_or]
    refine ⟨?_, ih⟩
    rintro ⟨same, begins⟩
    -- A hyphen that is kept there follows in the text, so that this is a line comment.
    obtain ⟨later, goesOn⟩ :=
      List.head?_eq_some_iff.mp (head?_dropFrom_false (by decide) begins)
    exact other later same.symm goesOn

/-- A text in which a line comment begins loses two hyphens. -/
theorem count_drop_lt (found : ['-', '-'] <:+: text) : (drop text).count '-' < text.count '-' := by
  -- Hyphens are lost where the comment begins, and the text in front of it keeps its own.
  induction text with
  | nil => simp at found
  | cons char later ih =>
    rw [List.infix_cons_iff, Text.pair_prefix_cons] at found
    by_cases begins : '-' = char ∧ later.head? = some '-'
    · obtain ⟨rfl, hyphen⟩ := begins
      obtain ⟨rest, rfl⟩ := List.head?_eq_some_iff.mp hyphen
      have fewer := (dropFrom_sublist true rest).count_le '-'
      simp only [drop, dropFrom, List.count_cons_self]
      omega
    · have kept := ih (found.resolve_left begins)
      rw [not_and_or] at begins
      rw [drop, dropFrom_cons (begins.imp_left Ne.symm), List.count_cons, List.count_cons]
      rw [drop] at kept
      omega

end LineComment

namespace BlockComment

/-- What block comments leave is a part of the text, in the same order. -/
theorem dropFrom_sublist (inside : Bool) (text : Text) : (dropFrom inside text).Sublist text := by
  -- In each case characters are left out or kept one by one.
  fun_induction dropFrom inside text with
  | case1 => exact .slnil
  | case2 rest ih => exact (ih.cons _).cons _
  | case3 char rest _ ih => exact ih.cons _
  | case4 rest _ ih => exact (ih.cons _).cons _
  | case5 rest _ => exact .refl _
  | case6 char rest _ ih => exact ih.cons_cons _

/-- A block comment that is closed stands in the text. Its two marks have no character in common. -/
def Closed (text : Text) : Prop :=
  ∃ before inside after, text = before ++ '/' :: '*' :: (inside ++ '*' :: '/' :: after)

/-- A comment stands at the beginning of a text or behind it. -/
theorem closed_cons_iff : Closed (char :: text) ↔
    (char = '/' ∧ ∃ rest, text = '*' :: rest ∧ closes rest = true) ∨ Closed text := by
  -- The text in front of the comment is empty, or it begins with the first character.
  constructor
  · intro closed
    obtain ⟨before, inside, after, split⟩ := closed
    cases before with
    | nil =>
      obtain ⟨rfl, rfl⟩ := List.cons.inj split
      exact .inl ⟨rfl, _, rfl, closes_iff.mpr ⟨inside, after, by simp⟩⟩
    | cons _ before => exact .inr ⟨before, inside, after, (List.cons.inj split).2⟩
  · intro closed
    rcases closed with ⟨rfl, rest, rfl, closed⟩ | ⟨before, inside, after, rfl⟩
    · obtain ⟨inside, after, rfl⟩ := closes_iff.mp closed
      exact ⟨[], inside, after, by simp⟩
    · exact ⟨char :: before, inside, after, rfl⟩

/-- There is no closed comment in nothing. -/
theorem not_closed_nil : ¬Closed [] := by
  rintro ⟨before, inside, after, split⟩
  simp at split

/-- A character is kept unless a closed comment begins with it. -/
theorem drop_cons (outside : ¬(char = '/' ∧ ∃ rest, text = '*' :: rest ∧ closes rest = true)) :
    drop (char :: text) = char :: drop text := by
  by_cases opens : char = '/' ∧ text.head? = some '*'
  · obtain ⟨rfl, star⟩ := opens
    obtain ⟨rest, rfl⟩ := List.head?_eq_some_iff.mp star
    -- The opening that stands here is not closed, so all of the rest is kept.
    have unclosed : ¬closes rest = true := fun closed => outside ⟨rfl, rest, rfl, closed⟩
    have kept : dropFrom false rest = rest :=
      dropFrom_of_not_closes (Bool.eq_false_iff.mpr unclosed)
    rw [drop, dropFrom, if_neg unclosed, drop, dropFrom_cons (.inl (by decide)), kept]
  · rw [drop, dropFrom_cons (not_and_or.mp opens), drop]

/-- Nothing is left out of a text without a closed comment. -/
theorem drop_of_not_closed (absent : ¬Closed text) : drop text = text := by
  -- The first character does not begin a closed comment, nor does any later one.
  induction text with
  | nil => rfl
  | cons char later ih =>
    rw [closed_cons_iff, not_or] at absent
    rw [drop_cons absent.1, ih absent.2]

/-- A text with a closed comment loses a slash at least. -/
theorem count_drop_lt (closed : Closed text) : (drop text).count '/' < text.count '/' := by
  -- The slash that begins the comment is lost, and no other sign is added.
  induction text with
  | nil => exact absurd closed not_closed_nil
  | cons char later ih =>
    rw [closed_cons_iff] at closed
    by_cases begins : char = '/' ∧ ∃ rest, later = '*' :: rest ∧ closes rest = true
    · obtain ⟨rfl, rest, rfl, closes⟩ := begins
      have fewer := (dropFrom_sublist true rest).count_le '/'
      rw [drop, dropFrom, if_pos closes, List.count_cons_self, List.count_cons_of_ne (by decide)]
      omega
    · have fewer := ih (closed.resolve_left begins)
      rw [drop_cons begins, List.count_cons, List.count_cons]
      omega

/-- A comment is left out exactly when the text loses a slash. -/
theorem closed_iff_count : Closed text ↔ (drop text).count '/' < text.count '/' := by
  -- Without a closed comment the text stays as it is, with all its slashes.
  refine ⟨count_drop_lt, fun fewer => ?_⟩
  by_contra absent
  rw [drop_of_not_closed absent] at fewer
  exact absurd fewer (lt_irrefl _)

/-- Additional white space neither opens nor closes comments. -/
theorem closed_widened {wide : Text} {afterSpace : Bool}
    (widened : Text.Widened afterSpace wide text) : Closed wide ↔ Closed text := by
  have slash : isSpace '/' = false := by decide
  -- Both texts have the same slashes, before comments are left out and afterwards.
  have same : ∀ {afterSpace : Bool} {wide text : Text}, Text.Widened afterSpace wide text →
      wide.count '/' = text.count '/' := by
    intro afterSpace wide text widened
    rw [← Text.count_trim_collapse slash wide, widened.trim_collapse,
      Text.count_trim_collapse slash]
  have left := same (widened_dropFrom false widened)
  rw [closed_iff_count, closed_iff_count, drop, drop, left, same widened]

/-- Nor does it matter that white space is collapsed and trimmed. -/
theorem closed_trim_collapse (text : Text) : Closed text.collapse.trim ↔ Closed text :=
  (closed_widened (Text.widened_trim text.collapse)).symm.trans
    (closed_widened (Text.widened_collapseFrom false text)).symm

end BlockComment

/-- A block comment that is closed in what line comments leave is closed in the text, too. -/
theorem LineComment.closed_of_dropFrom (closed : BlockComment.Closed (dropFrom inside text)) :
    BlockComment.Closed text := by
  -- A character that is kept begins a comment when it began one.
  have kept : ∀ {char : Char} {later : Text},
      (BlockComment.Closed (dropFrom false later) → BlockComment.Closed later) →
      BlockComment.Closed (char :: dropFrom false later) → BlockComment.Closed (char :: later) := by
    intro char later ih closed
    rw [BlockComment.closed_cons_iff] at closed ⊢
    refine closed.imp ?_ ih
    rintro ⟨slash, rest, begins, closes⟩
    have star : later.head? = some '*' := head?_dropFrom_false (by decide) (by rw [begins]; rfl)
    obtain ⟨more, rfl⟩ := List.head?_eq_some_iff.mp star
    rw [dropFrom_cons (.inl (by decide))] at begins
    obtain rfl := (List.cons.inj begins).2
    refine ⟨slash, more, rfl, ?_⟩
    rw [BlockComment.closes_iff] at closes ⊢
    exact pair_of_dropFrom (by decide) closes
  -- What is put in front of a closed comment leaves it closed.
  have behind : ∀ {char : Char} {later : Text}, BlockComment.Closed later →
      BlockComment.Closed (char :: later) :=
    fun closed => BlockComment.closed_cons_iff.mpr (.inr closed)
  -- Characters of a line comment are only put in front again.
  fun_induction dropFrom inside text with
  | case1 => exact closed
  | case2 later ih => exact kept ih closed
  | case3 char later _ ih => exact behind (ih closed)
  | case4 later ih => exact behind (behind (ih closed))
  | case5 char later _ ih => exact kept ih closed

end Ddl
