import Ddl.Proofs.Comment.Closed

/-! What is left of a text without its block comments is the stretches around these, one behind the
other. A new comment can only begin where two of them meet. -/

namespace Ddl

namespace BlockComment

variable {text front back : Text} {stretches : List Text}

/-- The stretches of a text in front of its closed block comments, between them and behind them. -/
inductive Stretches : Text → List Text → Prop
  /-- An opening that is not closed is not the beginning of a comment. -/
  | last {text : Text} (unclosed : ¬Closed text) : Stretches text [text]
  /-- The first opening begins a comment, which ends with the first close behind it. -/
  | comment {front inside rest : Text} {stretches : List Text} (noOpening : ¬['/', '*'] <:+: front)
    (noClose : ¬['*', '/'] <:+: inside) (behind : Stretches rest stretches) :
    Stretches (front ++ '/' :: '*' :: (inside ++ '*' :: '/' :: rest)) (front :: stretches)

/-- A closed comment has a first opening, and a first close behind it. -/
theorem Closed.exists_first (closed : Closed text) : ∃ front inside rest,
    text = front ++ '/' :: '*' :: (inside ++ '*' :: '/' :: rest) ∧ ¬['/', '*'] <:+: front ∧
      ¬['*', '/'] <:+: inside := by
  -- The opening stands at the beginning, or it is the first one behind it.
  induction text with
  | nil => exact absurd closed not_closed_nil
  | cons char later ih =>
    by_cases opens : char = '/' ∧ later.head? = some '*'
    · obtain ⟨rfl, star⟩ := opens
      obtain ⟨more, rfl⟩ := List.head?_eq_some_iff.mp star
      -- A comment that is closed further on closes the one that begins here as well.
      have closes : ['*', '/'] <:+: more := by
        rcases closed_cons_iff.mp closed with ⟨-, rest, same, closes⟩ | behind
        · rw [(List.cons.inj same).2]
          exact closes_iff.mp closes
        · obtain ⟨before, inside, after, split⟩ :=
            (closed_cons_iff.mp behind).resolve_left (by simp)
          exact ⟨before ++ '/' :: '*' :: inside, after, by simp [split]⟩
      obtain ⟨inside, rest, rfl, first⟩ := exists_first_close closes
      exact ⟨[], inside, rest, rfl, by simp, first⟩
    · have behind : Closed later := by
        refine (closed_cons_iff.mp closed).resolve_left ?_
        rintro ⟨slash, rest, rfl, -⟩
        exact opens ⟨slash, rfl⟩
      obtain ⟨front, inside, rest, rfl, noOpening, noClose⟩ := ih behind
      refine ⟨char :: front, inside, rest, rfl, ?_, noClose⟩
      rw [List.infix_cons_iff, Text.pair_prefix_cons, not_or]
      refine ⟨fun both => opens ⟨both.1.symm, ?_⟩, noOpening⟩
      rw [List.head?_append, both.2]
      rfl

/-- Every text has its stretches. -/
theorem exists_stretches (text : Text) : ∃ stretches, Stretches text stretches := by
  induction length : text.length using Nat.strong_induction_on generalizing text with
  | h size ih =>
    by_cases closed : Closed text
    · obtain ⟨front, inside, rest, rfl, noOpening, noClose⟩ := closed.exists_first
      -- What stands behind the first comment is shorter.
      have shorter : rest.length < size := by
        simp only [← length, List.length_append, List.length_cons]
        omega
      obtain ⟨stretches, behind⟩ := ih rest.length shorter rest rfl
      exact ⟨front :: stretches, .comment noOpening noClose behind⟩
    · exact ⟨[text], .last closed⟩

/-- The stretches are what is left of the text. -/
theorem Stretches.drop (kept : Stretches text stretches) :
    BlockComment.drop text = stretches.flatten := by
  -- Each comment is left out, and the stretches are what stands in front of the comments.
  induction kept with
  | last unclosed => simp [drop_of_not_closed unclosed]
  | @comment front inside rest stretches noOpening noClose behind ih =>
    have closed : closes (inside ++ '*' :: '/' :: rest) = true :=
      closes_iff.mpr ⟨inside, rest, by simp⟩
    rw [BlockComment.drop, dropFrom_append noOpening (by simp), dropFrom, if_pos closed,
      dropFrom_close noClose, ← BlockComment.drop, ih, List.flatten_cons]

/-- The end of one text and the beginning of another one make a comment, of which each has one
character of the first mark. -/
def Joins (front back : Text) : Prop :=
  (front.getLast? = some '-' ∧ back.head? = some '-') ∨
    (front.getLast? = some '/' ∧ ∃ rest, back = '*' :: rest ∧ closes rest = true)

/-- A comment that is opened in neither of two texts is opened where they meet. -/
theorem closed_append_iff (noOpening : ¬['/', '*'] <:+: front) : Closed (front ++ back) ↔
    (front.getLast? = some '/' ∧ ∃ rest, back = '*' :: rest ∧ closes rest = true) ∨
      Closed back := by
  induction front with
  | nil => simp
  | cons char later ih =>
    rw [List.infix_cons_iff, Text.pair_prefix_cons, not_or] at noOpening
    rw [List.cons_append, closed_cons_iff, ih noOpening.2]
    cases later with
    | nil => simp
    | cons next more =>
      -- In front of its end the text opens no comment.
      have inside : ¬(char = '/' ∧ ∃ rest, next :: more ++ back = '*' :: rest ∧
          closes rest = true) := by
        rintro ⟨slash, rest, star, -⟩
        exact noOpening.1 ⟨slash.symm, by simp_all⟩
      rw [or_iff_right inside, List.getLast?_cons_cons]

/-- Where two texts meet, a comment begins in the whole. -/
theorem Joins.exists_comment (joins : Joins front back) :
    ['-', '-'] <:+: front ++ back ∨ Closed (front ++ back) := by
  -- The hyphens meet, or a slash meets the rest of a closed comment.
  rcases joins with ⟨ends, begins⟩ | ⟨ends, rest, rfl, closes⟩
  · exact .inl (Text.pair_append_iff.mpr (.inr (.inl ⟨ends, begins⟩)))
  · obtain ⟨before, rfl⟩ := List.getLast?_eq_some_iff.mp ends
    obtain ⟨inside, after, rfl⟩ := closes_iff.mp closes
    exact .inr ⟨before, inside, after, by simp⟩

/-- The stretches of a text without line comments make a comment just where two of them meet, with
others in front and behind. -/
theorem Stretches.comment_iff (kept : Stretches text stretches) (absent : ¬['-', '-'] <:+: text) :
    (['-', '-'] <:+: stretches.flatten ∨ Closed stretches.flatten) ↔
      ∃ front back, stretches = front ++ back ∧ Joins front.flatten back.flatten := by
  constructor
  · intro found
    induction kept with
    | last unclosed => simp [absent, unclosed] at found
    | @comment front inside rest stretches noOpening noClose behind ih =>
      -- The text holds no hyphens, so neither does a part of it.
      have part : ¬['-', '-'] <:+: front ∧ ¬['-', '-'] <:+: rest := by
        refine ⟨fun early => absent ?_, fun late => absent ?_⟩
        · exact early.trans (List.prefix_append _ _).isInfix
        · exact late.trans ⟨front ++ '/' :: '*' :: (inside ++ ['*', '/']), [], by simp⟩
      rw [List.flatten_cons, Text.pair_append_iff, closed_append_iff noOpening] at found
      -- The comment begins where the first stretch ends, or it is one of the other stretches.
      have joined : Joins front stretches.flatten ∨ ['-', '-'] <:+: stretches.flatten ∨
          Closed stretches.flatten := by
        rcases found with (early | hyphens | later) | (slash | later)
        · exact absurd early part.1
        · exact .inl (.inl hyphens)
        · exact .inr (.inl later)
        · exact .inl (.inr slash)
        · exact .inr (.inr later)
      rcases joined with here | later
      · exact ⟨[front], stretches, rfl, by simpa using here⟩
      · obtain ⟨early, late, rfl, joins⟩ := ih part.2 later
        refine ⟨front :: early, late, rfl, ?_⟩
        -- The end of the stretches in front is that of the last of them.
        refine joins.imp (And.imp_left fun ends => ?_) (And.imp_left fun ends => ?_)
        · simp [List.getLast?_append, ends]
        · simp [List.getLast?_append, ends]
  · intro found
    obtain ⟨front, back, rfl, joins⟩ := found
    rw [List.flatten_append]
    exact joins.exists_comment

end BlockComment

end Ddl
