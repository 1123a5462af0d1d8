import Ddl.Proofs.Comment.Line

/-! A statement without line comments can be laid out anew: only where it has white space counts,
and not of which kind or how much. -/

namespace Ddl

variable {wide text : Text}

/-- Additional white space does not show in the normal form, unless there are line comments, which
only a line feed ends. -/
theorem normalize_of_widened (absent : ¬['-', '-'] <:+: wide)
    (widened : Text.Widened true wide text) : normalize wide = normalize text := by
  have absentText : ¬['-', '-'] <:+: text := fun found =>
    absent ((widened.pair_iff (by decide) (by decide)).mpr found)
  rw [normalize, normalize, LineComment.drop_eq_self absent, LineComment.drop_eq_self absentText]
  -- Block comments leave the white space around them where it is.
  exact (BlockComment.widened_dropFrom false widened).trim_collapse

/-- White space can be collapsed and trimmed before the comments are removed. -/
theorem normalize_trim_collapse (absent : ¬['-', '-'] <:+: text) :
    normalize text.collapse.trim = normalize text := by
  -- Collapsed text has no line comment either, and differs in white space only.
  have collapsed : ¬['-', '-'] <:+: text.collapse := fun found =>
    absent ((Text.pair_collapseFrom (by decide) (by decide)).mp found)
  have widened : Text.Widened true text text.collapse :=
    (Text.widened_collapseFrom false text).of_false
  rw [← normalize_of_widened collapsed (Text.widened_trim _), normalize_of_widened absent widened]

/-- A statement without line comments can be collapsed and trimmed, which changes neither its normal
form nor what is read of it. Statements that differ in their layout only are read alike. -/
theorem normalize_layout (absent : ¬['-', '-'] <:+: text) :
    normalize text.collapse.trim = normalize text ∧
      ∀ other : Text, ¬['-', '-'] <:+: other → other.collapse.trim = text.collapse.trim →
        Table.ofStatement other = Table.ofStatement text := by
  -- Both normal forms are that of the same collapsed text.
  refine ⟨normalize_trim_collapse absent, fun other absentOther same => ?_⟩
  have normal : normalize other = normalize text := by
    rw [← normalize_trim_collapse absentOther, same, normalize_trim_collapse absent]
  rw [Table.ofStatement, normal, ← Table.ofStatement]

/-- A statement in several lines with white space of many kinds, some of it around a comment. -/
def looseStatement : Text :=
  "\tCREATE TABLE t\n(id INT /*\u2003key\r\n*/\n\n, k INT) ".toList

/-- The same statement in one line with single spaces. -/
def tightStatement : Text :=
  "CREATE TABLE t (id INT /* key */ , k INT)".toList

/-- The two statements are read alike, although a space stays on both sides of the comment. -/
theorem normalize_layout_comment :
    ¬['-', '-'] <:+: looseStatement ∧ ¬['-', '-'] <:+: tightStatement ∧
      tightStatement.collapse.trim = looseStatement.collapse.trim ∧
      Table.ofStatement tightStatement = Table.ofStatement looseStatement := by
  -- Neither statement has a line comment, and they are the same when they are collapsed.
  have loose : ¬['-', '-'] <:+: looseStatement := by decide +kernel
  have tight : ¬['-', '-'] <:+: tightStatement := by decide +kernel
  have same : tightStatement.collapse.trim = looseStatement.collapse.trim := by decide +kernel
  exact ⟨loose, tight, same, (normalize_layout loose).2 _ tight same⟩

end Ddl
