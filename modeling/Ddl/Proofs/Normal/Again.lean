import Ddl.Proofs.Comment.Stretches

/-! The normal form of a normal form is itself, unless leaving out block comments has joined what
stands around them to a new comment. -/

namespace Ddl

open BlockComment

variable {text : Text} {stretches : List Text}

/-- A text with single spaces is its own normal form when it has no comment. -/
theorem normalize_eq_self_iff (single : text.Single) :
    normalize text = text ↔ ¬['-', '-'] <:+: text ∧ ¬Closed text := by
  have hyphen : isSpace '-' = false := by decide
  have slash : isSpace '/' = false := by decide
  constructor
  · intro same
    -- A comment that is left out takes hyphens or slashes with it, of which the text has no fewer.
    have line : ¬['-', '-'] <:+: text := by
      intro found
      have fewer := LineComment.count_drop_lt found
      have kept : (drop (LineComment.drop text)).count '-' ≤ (LineComment.drop text).count '-' :=
        (dropFrom_sublist false _).count_le '-'
      have all := congrArg (List.count '-') same
      rw [normalize, Text.count_trim_collapse hyphen] at all
      omega
    refine ⟨line, fun closed => ?_⟩
    -- Without a line comment it is the block comment that takes slashes away.
    have fewer := BlockComment.count_drop_lt closed
    have all := congrArg (List.count '/') same
    rw [normalize, Text.count_trim_collapse slash, LineComment.drop_eq_self line] at all
    omega
  · intro absent
    obtain ⟨line, block⟩ := absent
    rw [normalize, LineComment.drop_eq_self line, drop_of_not_closed block, single.trim_collapse]

/-- The normal form has single spaces, wherever comments stood. -/
theorem single_normalize (text : Text) : (normalize text).Single :=
  Text.single_trim_collapse _

/-- No comment is found in the normal form when no block comment had to be left out. -/
theorem noComment_normalize (absent : ¬Closed (LineComment.drop text)) :
    ¬['-', '-'] <:+: normalize text ∧ ¬Closed (normalize text) := by
  rw [normalize, drop_of_not_closed absent, Text.pair_trim_collapse (by decide) (by decide),
    closed_trim_collapse]
  exact ⟨LineComment.not_pair_dropFrom, absent⟩

/-- The normal form of the normal form is another one just where stretches make a comment. -/
theorem normalize_normalize_ne_iff (kept : Stretches (LineComment.drop text) stretches) :
    normalize (normalize text) ≠ normalize text ↔
      ∃ front back, stretches = front ++ back ∧ Joins front.flatten back.flatten := by
  have comments : normalize (normalize text) ≠ normalize text ↔
      ['-', '-'] <:+: normalize text ∨ Closed (normalize text) := by
    rw [ne_eq, normalize_eq_self_iff (single_normalize text), not_and_or, not_not, not_not]
  -- The comments of the normal form are those of the stretches in a row.
  rw [comments, ← kept.comment_iff LineComment.not_pair_dropFrom, normalize, kept.drop,
    Text.pair_trim_collapse (by decide) (by decide), closed_trim_collapse]

/-- The white space of a normal form is single spaces between other characters. It is its own normal
form exactly when it has no comment. This is so when no block comment is closed in the statement,
before or after its line comments are left out, and otherwise unless two of the stretches that stand
around its block comments make a new comment where they are joined. -/
theorem normalize_again (text : Text) :
    (normalize text).Single ∧
      (normalize (normalize text) = normalize text ↔
        ¬['-', '-'] <:+: normalize text ∧ ¬Closed (normalize text)) ∧
      (¬Closed (LineComment.drop text) → ¬['-', '-'] <:+: normalize text ∧
        ¬Closed (normalize text) ∧ normalize (normalize text) = normalize text) ∧
      (¬Closed text → normalize (normalize text) = normalize text) ∧
      (∃ stretches, Stretches (LineComment.drop text) stretches) ∧
      ∀ stretches, Stretches (LineComment.drop text) stretches →
        (normalize (normalize text) ≠ normalize text ↔
          ∃ front back, stretches = front ++ back ∧ Joins front.flatten back.flatten) := by
  have self := normalize_eq_self_iff (single_normalize text)
  have again : ¬Closed (LineComment.drop text) → normalize (normalize text) = normalize text :=
    fun absent => self.mpr (noComment_normalize absent)
  refine ⟨single_normalize text, self, fun absent => ?_, fun absent => ?_,
    exists_stretches _, fun _ => normalize_normalize_ne_iff⟩
  · obtain ⟨line, block⟩ := noComment_normalize absent
    exact ⟨line, block, again absent⟩
  · -- Line comments that are left out make no block comment.
    exact again fun closed => absent (LineComment.closed_of_dropFrom closed)

/-- A block comment between two hyphens, and one in a line comment. -/
def joinedHyphens : Text :=
  "a -/* key */- b -- /* c */".toList

/-- The stretches around the block comment make a line comment, so what stands behind it is left out
the second time. -/
theorem normalize_again_hyphens :
    normalize joinedHyphens = "a -- b".toList ∧
      Stretches (LineComment.drop joinedHyphens) ["a -".toList, "- b ".toList] ∧
      normalize (normalize joinedHyphens) ≠ normalize joinedHyphens ∧
      ¬Closed (LineComment.drop "a -- /* b */".toList) ∧
      normalize (normalize "a -- /* b */".toList) = normalize "a -- /* b */".toList := by
  have stretches : Stretches (LineComment.drop joinedHyphens) ["a -".toList, "- b ".toList] := by
    have behind : Stretches "- b ".toList ["- b ".toList] :=
      .last fun closed => absurd (count_drop_lt closed) (by decide)
    have opening : ¬['/', '*'] <:+: "a -".toList := by decide
    have close : ¬['*', '/'] <:+: " key ".toList := by decide
    exact .comment opening close behind
  have joins : Joins "a -".toList "- b ".toList := .inl (by decide)
  have none : ¬Closed (LineComment.drop "a -- /* b */".toList) := fun closed =>
    absurd (count_drop_lt closed) (by decide)
  refine ⟨by decide +kernel, stretches, ?_, none, ?_⟩
  · exact ((normalize_again joinedHyphens).2.2.2.2.2 _ stretches).mpr
      ⟨["a -".toList], ["- b ".toList], rfl, by simpa using joins⟩
  · exact ((normalize_again "a -- /* b */".toList).2.2.1 none).2.2

end Ddl
