import Ddl.Proofs.Comment.Line
import Ddl.Proofs.Pattern.Words

/-! Comments that end in front of a quote leave what stands behind the quote alone, and so does a
block comment that is never closed. -/

namespace Ddl

/-- A quote behind a text changes only how the empty text begins. -/
theorem Text.head?_append_quote {text : Text} {char : Char} (other : char ≠ '\'') (rest : Text) :
    (text ++ '\'' :: rest).head? = some char ↔ text.head? = some char := by
  cases text with
  | nil => simp [Ne.symm other]
  | cons first later => rfl

namespace LineComment

variable {text rest : Text}

/-- A text in which no hyphen stands is kept in front of others. -/
theorem dropFrom_plain_append {front : Text} (plain : '-' ∉ front) (rest : Text) :
    dropFrom false (front ++ rest) = front ++ dropFrom false rest :=
  drop_append (fun found => plain (found.subset List.mem_cons_self))
    (fun ends => plain (List.mem_of_getLast? ends)) rest

/-- A quote behind line comments that have ended is kept. -/
theorem dropFrom_append_quote (ends : Ends text) (rest : Text) :
    dropFrom false (text ++ '\'' :: rest) = dropFrom false text ++ '\'' :: dropFrom false rest := by
  rw [dropFrom_append false text (by simp), isOpen_eq_false_iff.mpr ends, dropFrom_cons (by simp)]

end LineComment

namespace BlockComment

variable {text rest front : Text} {inside : Bool}

/-- Whether a block comment is open at the end of a text, read from inside of one or from
outside. -/
def isOpen : Bool → Text → Bool
  | inside, [] => inside
  | true, '*' :: '/' :: rest => isOpen false rest
  | true, _ :: rest => isOpen true rest
  | false, '/' :: '*' :: rest => isOpen true rest
  | false, _ :: rest => isOpen false rest

/-- A block comment goes on where none is closed. -/
theorem isOpen_of_not_closes (unclosed : closes text = false) : isOpen true text = true := by
  -- No place of the text has the signs that would close it.
  fun_induction closes text with
  | case1 => rfl
  | case2 => simp at unclosed
  | case3 char later other ih => rw [isOpen, ih unclosed]; exact other

/-- A text in which no slash stands is kept in front of others. -/
theorem dropFrom_plain_append (plain : '/' ∉ front) (rest : Text) :
    dropFrom false (front ++ rest) = front ++ dropFrom false rest := by
  -- No block comment begins without a slash.
  induction front with
  | nil => rfl
  | cons char later ih =>
    rw [List.mem_cons, not_or] at plain
    rw [List.cons_append, dropFrom_cons (.inl (Ne.symm plain.1)), ih plain.2, List.cons_append]

/-- No comment is left out where none is closed. -/
theorem dropFrom_of_not_closes (unclosed : closes text = false) : dropFrom false text = text := by
  -- A comment that begins somewhere is not closed behind it, and so it is kept.
  rw [← Bool.not_eq_true, closes_iff] at unclosed
  induction text with
  | nil => rfl
  | cons char later ih =>
    have behind : ¬['*', '/'] <:+: later := fun found =>
      unclosed (found.trans (List.suffix_cons _ _).isInfix)
    by_cases opens : char = '/' ∧ later.head? = some '*'
    · obtain ⟨rfl, first⟩ := opens
      obtain ⟨rest, rfl⟩ := List.head?_eq_some_iff.mp first
      have never : ¬closes rest = true := fun closed =>
        behind ((closes_iff.mp closed).trans (List.suffix_cons _ _).isInfix)
      rw [dropFrom, if_neg never]
    · rw [dropFrom_cons (not_and_or.mp opens), ih behind]

/-- A text without stars closes no block comment. -/
theorem closes_plain_append (plain : '*' ∉ front) (rest : Text) :
    closes (front ++ rest) = closes rest := by
  -- Its characters are passed over, and none of them begins a close.
  induction front with
  | nil => rfl
  | cons char later ih =>
    rw [List.mem_cons, not_or] at plain
    rw [List.cons_append, closes, ih plain.2]
    rintro more rfl
    exact absurd rfl plain.1

/-- A close stands in front of a quote or behind it. -/
theorem closes_append_quote (text rest : Text) :
    closes (text ++ '\'' :: rest) = (closes text || closes rest) := by
  rw [Bool.eq_iff_iff, Bool.or_eq_true, closes_iff, closes_iff, closes_iff]
  exact Pattern.infix_append_cons_iff (by simp) (by simp)

/-- A quote is kept behind block comments that are closed, and also behind one that is not closed
later either. -/
theorem dropFrom_append_quote (closed : isOpen inside text = false ∨ closes rest = false)
    (entered : inside = true → closes text = true) :
    dropFrom inside (text ++ '\'' :: rest) =
      dropFrom inside text ++ '\'' :: dropFrom false rest := by
  -- The quote stands in no sign, and so it separates the two texts.
  fun_induction dropFrom inside text with
  | case1 inside =>
    have outside : inside = false := by simpa [closes] using entered
    rw [outside, List.nil_append, dropFrom_cons (by simp), List.nil_append]
  | case2 later ih =>
    rw [List.cons_append, List.cons_append, dropFrom]
    exact ih closed (by simp)
  | case3 char later other ih =>
    have apart : char ≠ '*' ∨ (later ++ '\'' :: rest).head? ≠ some '/' :=
      Text.apart_of_absent (Text.head?_append_quote (by decide) rest) other
    rw [List.cons_append, dropFrom_true_cons apart]
    refine ih ?_ ?_
    · rwa [isOpen] at closed
      exact other
    · intro _
      have closes := entered rfl
      rwa [BlockComment.closes] at closes
      exact other
  | case4 later reached ih =>
    -- The close that is in the text is the first one for both texts.
    rw [List.cons_append, List.cons_append, dropFrom, closes_append_quote, reached, Bool.true_or,
      if_pos rfl]
    exact ih closed fun _ => reached
  | case5 later unclosed =>
    rw [Bool.not_eq_true] at unclosed
    -- The comment is open behind the text, so it is not closed later.
    have never : closes rest = false := by
      simpa [isOpen, isOpen_of_not_closes unclosed] using closed
    rw [List.cons_append, List.cons_append, dropFrom, closes_append_quote, unclosed, never,
      dropFrom_of_not_closes never]
    rfl
  | case6 char later other ih =>
    have apart : char ≠ '/' ∨ (later ++ '\'' :: rest).head? ≠ some '*' :=
      Text.apart_of_absent (Text.head?_append_quote (by decide) rest) other
    rw [List.cons_append, dropFrom_cons apart, List.cons_append]
    refine congrArg (char :: ·) (ih ?_ (by simp))
    rwa [isOpen] at closed
    exact other

end BlockComment

/-- A text in which no comment begins or ends, and in which white space is collapsed, between two
characters that are none. -/
structure IsFrame (frame : Text) : Prop where
  begins : ∃ char ∈ frame.head?, isSpace char = false
  plain : ∀ char ∈ ['-', '/', '*'], char ∉ frame
  collapsed : ∀ rest, Text.collapseFrom false (frame ++ rest) =
    frame ++ Text.collapseFrom false rest

/-- Contents behind frames, with a quote behind each of them, and a parenthesis at the end. -/
def quoting (pairs : List (Text × Text)) : Text :=
  pairs.flatMap (fun pair => pair.1 ++ (pair.2 ++ ['\''])) ++ [')']

/-- The same frames with other contents. -/
def changeContents (change : Text → Text) (pairs : List (Text × Text)) : List (Text × Text) :=
  pairs.map (Prod.map id change)

/-- What the normal form keeps of a content, if no comment reaches out of it. -/
def keptContent (content : Text) : Text :=
  (BlockComment.drop (LineComment.drop content)).collapse

/-- No comment reaches from a content to another one: line comments end, and a block comment that is
open at the end of a content is not closed in a later one. -/
structure Contained (contents : List Text) : Prop where
  line : ∀ content ∈ contents, LineComment.Ends content
  block : contents.Pairwise fun content later =>
    BlockComment.isOpen false (LineComment.drop content) = true →
      BlockComment.closes (LineComment.drop later) = false

variable {pairs : List (Text × Text)}

/-- A frame is followed by its content, a quote and what comes then. -/
theorem quoting_cons (pair : Text × Text) (pairs : List (Text × Text)) :
    quoting (pair :: pairs) = pair.1 ++ (pair.2 ++ '\'' :: quoting pairs) := by
  simp [quoting]

/-- The content of each frame is changed on its own. -/
theorem quoting_changeContents_cons (change : Text → Text) (pair : Text × Text)
    (later : List (Text × Text)) : quoting (changeContents change (pair :: later)) =
      pair.1 ++ (change pair.2 ++ '\'' :: quoting (changeContents change later)) :=
  quoting_cons _ _

/-- The frames stay when the contents change. -/
theorem isFrame_changeContents (frames : ∀ pair ∈ pairs, IsFrame pair.1) (change : Text → Text) :
    ∀ pair ∈ changeContents change pairs, IsFrame pair.1 := by
  intro pair member
  obtain ⟨source, inside, rfl⟩ := List.mem_map.mp member
  exact frames source inside

/-- Neither the frames nor the parenthesis at the end are white space at the ends of a text. -/
theorem tight_quoting (frames : ∀ pair ∈ pairs, IsFrame pair.1) : (quoting pairs).Tight where
  head := by
    -- The first character belongs to the first frame, or it is the last parenthesis.
    cases pairs with
    | nil => exact ⟨')', rfl, by decide⟩
    | cons pair later =>
      obtain ⟨char, first, solid⟩ := (frames pair List.mem_cons_self).begins
      obtain ⟨rest, whole⟩ := List.head?_eq_some_iff.mp first
      exact ⟨char, by rw [quoting_cons, whole]; rfl, solid⟩
  last := ⟨')', by simp [quoting], by decide⟩

/-- Line comments are left out of each content on its own. -/
theorem dropLine_quoting (frames : ∀ pair ∈ pairs, IsFrame pair.1)
    (ends : ∀ pair ∈ pairs, LineComment.Ends pair.2) :
    LineComment.drop (quoting pairs) = quoting (changeContents LineComment.drop pairs) := by
  rw [LineComment.drop]
  -- Frames have no hyphens, and a comment that begins in a content ends in it.
  induction pairs with
  | nil => rfl
  | cons pair later ih =>
    rw [List.forall_mem_cons] at frames ends
    have plain : '-' ∉ pair.1 := frames.1.plain '-' (by simp)
    rw [quoting_cons, LineComment.dropFrom_plain_append plain,
      LineComment.dropFrom_append_quote ends.1, ih frames.2 ends.2,
      quoting_changeContents_cons, LineComment.drop]

/-- Block comments are closed only in contents. -/
theorem closes_quoting (frames : ∀ pair ∈ pairs, IsFrame pair.1)
    (unclosed : ∀ pair ∈ pairs, BlockComment.closes pair.2 = false) :
    BlockComment.closes (quoting pairs) = false := by
  -- Frames have no stars, and quotes do not stand in signs.
  induction pairs with
  | nil => rfl
  | cons pair later ih =>
    rw [List.forall_mem_cons] at frames unclosed
    have plain : '*' ∉ pair.1 := frames.1.plain '*' (by simp)
    rw [quoting_cons, BlockComment.closes_plain_append plain, BlockComment.closes_append_quote,
      unclosed.1, ih frames.2 unclosed.2, Bool.or_false]

/-- Block comments are left out of each content on its own. -/
theorem dropBlock_quoting (frames : ∀ pair ∈ pairs, IsFrame pair.1)
    (apart : pairs.Pairwise fun pair later =>
      BlockComment.isOpen false pair.2 = true → BlockComment.closes later.2 = false) :
    BlockComment.drop (quoting pairs) = quoting (changeContents BlockComment.drop pairs) := by
  rw [BlockComment.drop]
  -- A comment that is open behind its content is not closed later, and stays where it is.
  induction pairs with
  | nil => rfl
  | cons pair later ih =>
    rw [List.forall_mem_cons] at frames
    rw [List.pairwise_cons] at apart
    have plain : '/' ∉ pair.1 := frames.1.plain '/' (by simp)
    have closed : BlockComment.isOpen false pair.2 = false ∨
        BlockComment.closes (quoting later) = false := by
      cases opened : BlockComment.isOpen false pair.2 with
      | false => exact .inl rfl
      | true => exact .inr (closes_quoting frames.2 fun next member => apart.1 next member opened)
    rw [quoting_cons, BlockComment.dropFrom_plain_append plain,
      BlockComment.dropFrom_append_quote closed (by simp), ih frames.2 apart.2,
      quoting_changeContents_cons, BlockComment.drop]

/-- White space is collapsed in each content on its own. -/
theorem collapse_quoting (frames : ∀ pair ∈ pairs, IsFrame pair.1) :
    (quoting pairs).collapse = quoting (changeContents Text.collapse pairs) := by
  rw [Text.collapse]
  -- Frames are collapsed already, and a quote follows each content.
  induction pairs with
  | nil => rfl
  | cons pair later ih =>
    rw [List.forall_mem_cons] at frames
    rw [quoting_cons, frames.1.collapsed, Text.collapseFrom_append_cons (by decide), ih frames.2,
      quoting_changeContents_cons, Text.collapse]

/-- The normal form has the same frames, and of each content what is kept of it alone. -/
theorem normalize_quoting (frames : ∀ pair ∈ pairs, IsFrame pair.1)
    (contained : Contained (pairs.map Prod.snd)) :
    normalize (quoting pairs) = quoting (changeContents keptContent pairs) := by
  -- The steps change one content after another, and each keeps the frames.
  have ends : ∀ pair ∈ pairs, LineComment.Ends pair.2 := fun pair member =>
    contained.line _ (List.mem_map_of_mem member)
  have apart : (changeContents LineComment.drop pairs).Pairwise fun pair later =>
      BlockComment.isOpen false pair.2 = true → BlockComment.closes later.2 = false :=
    List.pairwise_map.mpr (List.pairwise_map.mp contained.block)
  have together : changeContents Text.collapse
      (changeContents BlockComment.drop (changeContents LineComment.drop pairs)) =
        changeContents keptContent pairs := by
    simp only [changeContents, List.map_map]
    rfl
  rw [normalize, dropLine_quoting frames ends,
    dropBlock_quoting (isFrame_changeContents frames _) apart,
    collapse_quoting (isFrame_changeContents (isFrame_changeContents frames _) _), together,
    Text.trim_of_tight (tight_quoting (isFrame_changeContents frames _))]

end Ddl
