import Ddl.Proofs.Comment.Quoted
import Ddl.Proofs.Table.Outcome

/-! What follows the definition of a table does not change it, as long as no parenthesis closes
there and no comment begins or ends. -/

namespace Ddl

variable {text front back more : Text}

/-- A text that closes no parenthesis and has no character of which comment marks are made. -/
structure IsTrailing (text : Text) : Prop where
  flat : ')' ∉ text
  hyphen : '-' ∉ text
  slash : '/' ∉ text
  asterisk : '*' ∉ text

/-- A part of what may follow may follow, too. -/
theorem IsTrailing.sublist (trailing : IsTrailing text) (part : more.Sublist text) :
    IsTrailing more where
  -- No sign comes in when characters are left out.
  flat := fun member => trailing.flat (part.subset member)
  hyphen := fun member => trailing.hyphen (part.subset member)
  slash := fun member => trailing.slash (part.subset member)
  asterisk := fun member => trailing.asterisk (part.subset member)

/-- A text does not begin with a character that is not in it. -/
theorem Text.head?_ne_of_not_mem {char : Char} (absent : char ∉ text) : text.head? ≠ some char :=
  fun begins => absent (List.mem_of_mem_head? begins)

namespace BlockComment

/-- No block comment is closed by what follows. -/
theorem closes_append_trailing (trailing : IsTrailing back) (front : Text) :
    closes (front ++ back) = closes front := by
  rw [Bool.eq_iff_iff, closes_iff, closes_iff]
  constructor
  · intro found
    by_contra absent
    -- A mark in neither text would have to lie on both sides of the place where they meet.
    have behind : ¬['*', '/'] <:+: back := fun inside =>
      trailing.asterisk (inside.subset List.mem_cons_self)
    have apart := Text.head?_ne_of_not_mem trailing.slash
    exact Written.not_pair_append absent behind (.inl apart) found
  · exact fun found => found.trans (List.prefix_append _ _).isInfix

/-- What follows is kept, since the text in front of it leaves no comment open that is closed. -/
theorem dropFrom_append_trailing (trailing : IsTrailing back) {inside : Bool}
    (entered : inside = true → closes front = true) :
    dropFrom inside (front ++ back) = dropFrom inside front ++ back := by
  -- A mark that begins in front of what follows does not go on in it.
  have head {char : Char} (absent : char ∉ back) (text : Text) :
      (text ++ back).head? = some char ↔ text.head? = some char := by
    cases text with
    | nil => simpa using Text.head?_ne_of_not_mem absent
    | cons first later => rfl
  fun_induction dropFrom inside front with
  | case1 inside =>
    -- The text has ended outside of comments, and none begins in what follows.
    obtain rfl : inside = false := by simpa [closes] using entered
    have alone := dropFrom_plain_append trailing.slash []
    simpa [dropFrom] using alone
  | case2 rest ih =>
    -- A comment is closed, and outside of comments nothing is asked of the rest.
    rw [List.cons_append, List.cons_append, dropFrom, ih (by simp)]
  | case3 char rest other ih =>
    have apart := Text.apart_of_absent (head trailing.slash rest) other
    rw [List.cons_append, dropFrom_true_cons apart]
    refine ih fun _ => ?_
    -- The comment that is open is closed behind this character.
    have closed := entered rfl
    rwa [closes] at closed
    exact other
  | case4 rest closed ih =>
    -- A comment begins, and the mark that closes it is in front of what follows.
    rw [List.cons_append, List.cons_append, dropFrom, closes_append_trailing trailing,
      if_pos closed]
    exact ih fun _ => closed
  | case5 rest unclosed =>
    -- What is not closed in the text is not closed later, so that it is no comment.
    rw [List.cons_append, List.cons_append, dropFrom, closes_append_trailing trailing,
      if_neg unclosed]
  | case6 char rest other ih =>
    have apart := Text.apart_of_absent (head trailing.asterisk rest) other
    rw [List.cons_append, dropFrom_cons apart, ih (by simp), List.cons_append]

end BlockComment

/-- White space is collapsed from the front to the back. -/
theorem Text.exists_collapseFrom_append (afterSpace : Bool) (front back : Text) :
    ∃ behind, collapseFrom afterSpace (front ++ back) =
      collapseFrom afterSpace front ++ collapseFrom behind back := by
  -- What comes behind only needs to know whether the text in front ends with white space.
  fun_induction collapseFrom afterSpace front with
  | case1 afterSpace => exact ⟨afterSpace, rfl⟩
  | case2 char rest blank ih =>
    obtain ⟨behind, same⟩ := ih
    exact ⟨behind, by simp [collapseFrom, blank, same]⟩
  | case3 afterSpace char rest blank outside ih =>
    obtain ⟨behind, same⟩ := ih
    exact ⟨behind, by simp [collapseFrom, blank, outside, same]⟩
  | case4 afterSpace char rest solid ih =>
    obtain ⟨behind, same⟩ := ih
    exact ⟨behind, by simp [collapseFrom, solid, same]⟩

/-- A text that trimming leaves something of is kept in front of others. -/
theorem Text.exists_trim_append_of_present (present : front.trim ≠ []) (back : Text) :
    ∃ more, (front ++ back).trim = front.trim ++ more := by
  obtain ⟨before, after, whole, blank, -⟩ := exists_trim front
  obtain ⟨more, kept⟩ := exists_trim_append (tight_trim present) (after ++ back)
  refine ⟨more, ?_⟩
  -- The white space at the beginning is taken off both texts.
  have split : front ++ back = before ++ ((front.trim ++ (after ++ back)) ++ []) := by
    conv_lhs => rw [whole]
    simp
  rw [split, trim_between_blanks blank rfl, kept]

/-- In normal form what follows stands behind the normal form of the text. -/
theorem exists_normalize_append (trailing : IsTrailing back) (present : normalize text ≠ []) :
    ∃ more, normalize (text ++ back) = normalize text ++ more ∧ ')' ∉ more := by
  let kept := LineComment.dropFrom (LineComment.isOpen false text) back
  have keptTrailing : IsTrailing kept := trailing.sublist (LineComment.dropFrom_sublist _ back)
  -- Line comments may take away some of what follows, and block comments take away none of it.
  have uncommented : BlockComment.drop (LineComment.drop (text ++ back)) =
      BlockComment.drop (LineComment.drop text) ++ kept := by
    have apart := Text.head?_ne_of_not_mem trailing.hyphen
    rw [LineComment.drop, LineComment.dropFrom_append false text apart]
    exact BlockComment.dropFrom_append_trailing keptTrailing (by simp)
  obtain ⟨behind, collapsed⟩ :=
    Text.exists_collapseFrom_append false (BlockComment.drop (LineComment.drop text)) kept
  obtain ⟨more, trimmed⟩ :=
    Text.exists_trim_append_of_present present (Text.collapseFrom behind kept)
  have whole : normalize (text ++ back) = normalize text ++ more := by
    rw [normalize, uncommented, Text.collapse, collapsed]
    exact trimmed
  refine ⟨more, whole, fun member => keptTrailing.flat ?_⟩
  -- Neither collapsing nor trimming brings in a parenthesis.
  have visible : (normalize text ++ more).filter (!isSpace ·) =
      (BlockComment.drop (LineComment.drop text) ++ kept).filter (!isSpace ·) := by
    rw [← whole, ← uncommented]
    exact Text.filter_trim_collapse _
  have own : (normalize text).filter (!isSpace ·) =
      (BlockComment.drop (LineComment.drop text)).filter (!isSpace ·) :=
    Text.filter_trim_collapse _
  rw [List.filter_append, List.filter_append, own, List.append_cancel_left_eq] at visible
  have inFilter : ')' ∈ more.filter (!isSpace ·) := List.mem_filter.mpr ⟨member, by decide⟩
  rw [visible] at inFilter
  exact (List.mem_filter.mp inFilter).1

/-- A header is made of words, white space and quotes up to its parenthesis. -/
theorem Grammar.Header.not_mem_front (header : Grammar.Header) {char : Char}
    (word : isWord char = false) (space : isSpace char = false)
    (quote : CharClass.isQuote char = false) : char ∉ header.front := by
  -- The three kinds of pieces are words, white space and marks.
  have inWord {letters : Text} (isWord : ∀ char ∈ letters, isWord char = true) : char ∉ letters :=
    fun member => by simp [isWord char member] at word
  have inSpace {gap : Text} (blank : gap.isBlank = true) : char ∉ gap :=
    fun member => by simp [Text.isSpace_of_isBlank blank member] at space
  have inMark (mark : Grammar.Mark) : char ∉ mark.text :=
    fun member => by simp [mark.quote char member] at quote
  have inName (name : Written.Name) : char ∉ name.text := inWord (List.all_eq_true.mp name.word)
  -- Of these pieces only the optional keywords need a case of their own.
  obtain ⟨create, createGap, table, tableGap, guard?, name, padding⟩ := header
  have inGuard : char ∉ guard?.elim [] Grammar.Guard.text := by
    cases guard? with
    | none => exact List.not_mem_nil
    | some guard =>
      simp [Grammar.Guard.text, inWord guard.ifWord.isWord, inSpace guard.ifGap.blank,
        inWord guard.notWord.isWord, inSpace guard.notGap.blank, inWord guard.existsWord.isWord,
        inSpace guard.existsGap.blank]
  simp [Grammar.Header.front, Grammar.Header.guardText, Grammar.MarkedName.text,
    inWord create.isWord, inSpace createGap.blank, inWord table.isWord, inSpace tableGap.blank,
    inGuard, inMark, inName, inSpace padding.blank]

/-- The first header stays the first one, whatever follows. -/
theorem TableHeader.find?_append {found : TableHeader} (searched : find? text = some found)
    (more : Text) : find? (text ++ more) = some found := by
  have opens := opens_of_find? searched
  obtain ⟨place, header, begins, isFirst, rfl⟩ := find?_eq_some_iff.mp searched
  have inside : place + header.front.length < text.length :=
    (List.getElem?_eq_some_iff.mp opens).1
  -- The header still stands at its place, and no other one begins in front of it.
  refine find?_eq_some_iff.mpr ⟨place, header, ?_, fun earlier before other otherBegins => ?_, rfl⟩
  · rw [List.drop_append_of_le_length (by omega)]
    exact begins.trans (List.prefix_append _ _)
  · rw [List.drop_append_of_le_length (by omega)] at otherBegins
    have fitsOr := List.prefix_or_prefix_of_prefix otherBegins (List.prefix_append _ more)
    rcases fitsOr with fits | longer
    · -- A header inside of the text has been there before.
      exact isFirst earlier before other fits
    · -- A header that goes on behind the text would have the parenthesis of the first one inside.
      rw [Grammar.Header.text, List.prefix_concat_iff] at longer
      rcases longer with same | longer
      · exact isFirst earlier before other (by simp [Grammar.Header.text, same])
      · have inside : (text.drop earlier)[place + header.front.length - earlier]? = some '(' := by
          rw [List.getElem?_drop, Nat.add_sub_cancel' (by omega)]
          exact opens
        exact other.not_mem_front (by decide) (by decide) (by decide)
          (longer.subset (List.mem_of_getElem? inside))

/-- A block stays the same when no parenthesis closes behind it. -/
theorem TableBody.block?_append_trailing {start : Nat} {block : Text}
    (given : block? text start = some block) (flat : ')' ∉ more) :
    block? (text ++ more) start = some block := by
  obtain ⟨opening, closing, first, last, room, rfl⟩ := block?_eq_some_iff.mp given
  have inside : closing < text.length := (List.getElem?_eq_some_iff.mp last.stands).1
  refine block?_eq_some_iff.mpr ⟨opening, closing, ?_, ?_, room, ?_⟩
  · refine ⟨first.fromStart, ?_, fun earlier behind before => ?_⟩
    · rw [List.getElem?_append_left (by omega), first.stands]
    · rw [List.getElem?_append_left (by omega)]
      exact first.isFirst earlier behind before
  · -- The parenthesis that closes stays the last one.
    refine ⟨by rw [List.getElem?_append_left inside, last.stands], fun later behind => ?_⟩
    by_cases within : later < text.length
    · rw [List.getElem?_append_left within]
      exact last.isLast later behind
    · rw [List.getElem?_append_right (by omega)]
      exact fun closes => flat (List.mem_of_getElem? closes)
  · rw [Text.between, Text.between, List.take_append_of_le_length (by omega)]

namespace Table

/-- The header and the block of a statement are the same whatever follows, and so is what its
clauses give. -/
theorem ofStatement_append_of_block {statement back block : Text} {header : TableHeader}
    (searched : TableHeader.find? (normalize statement) = some header)
    (given : TableBody.block? (normalize statement) header.start = some block)
    (trailing : IsTrailing back) : ofStatement (statement ++ back) = ofStatement statement := by
  -- The normal form goes on behind the block, without a parenthesis that closes.
  have present : normalize statement ≠ [] := by
    intro empty
    rw [empty] at searched
    cases searched
  obtain ⟨more, whole, flat⟩ := exists_normalize_append trailing present
  have searchedAgain := TableHeader.find?_append searched more
  have givenAgain := TableBody.block?_append_trailing given flat
  rw [← whole] at searchedAgain givenAgain
  rw [ofStatement_of_block searchedAgain givenAgain, ofStatement_of_block searched given]

/-- A statement with a header and a block gives the same table, or the same fault, whatever follows
it without closing parentheses and parts of comments. -/
theorem ofStatement_append_trailing {statement back : Text}
    (named : ofStatement statement ≠ .error .missingTableName)
    (filled : ofStatement statement ≠ .error .missingColumnBlock) (trailing : IsTrailing back) :
    ofStatement (statement ++ back) = ofStatement statement := by
  obtain ⟨result, outcome⟩ := exists_outcome statement
  -- Behind a header and a block a clause can still be faulty.
  cases outcome with
  | noHeader missing => exact absurd (Outcome.noHeader missing).ofStatement_eq named
  | noBlock searched missing =>
    exact absurd (Outcome.noBlock searched missing).ofStatement_eq filled
  | faulty searched given _ => exact ofStatement_append_of_block searched given trailing
  | table searched given _ => exact ofStatement_append_of_block searched given trailing

/-- A statement that ends in a line comment, and one with a faulty clause and an open block comment,
in front of the beginning of another statement. -/
theorem ofStatement_append_trailing_header :
    ofStatement ("CREATE TABLE t (a INT) -- end".toList ++ "; (,\nCREATE TABLE u (b".toList) =
        .ok ⟨"t".toList, [⟨"a".toList, "INT".toList, true, false, false, none, none⟩], []⟩ ∧
      ofStatement ("CREATE TABLE t (CONSTRAINT c FOREIGN KEY) /* end".toList ++
          "; (,\nCREATE TABLE u (b".toList) =
        .error (.invalidConstraint "CONSTRAINT c FOREIGN KEY".toList) := by
  have read : ofStatement "CREATE TABLE t (a INT) -- end".toList =
      .ok ⟨"t".toList, [⟨"a".toList, "INT".toList, true, false, false, none, none⟩], []⟩ := by
    decide +kernel
  have faulty : ofStatement "CREATE TABLE t (CONSTRAINT c FOREIGN KEY) /* end".toList =
      .error (.invalidConstraint "CONSTRAINT c FOREIGN KEY".toList) := by
    decide +kernel
  have trailing : IsTrailing "; (,\nCREATE TABLE u (b".toList :=
    ⟨by decide, by decide, by decide, by decide⟩
  constructor
  · rw [ofStatement_append_trailing (by rw [read]; nofun) (by rw [read]; nofun) trailing, read]
  · rw [ofStatement_append_trailing (by rw [faulty]; nofun) (by rw [faulty]; nofun) trailing,
      faulty]

end Table

end Ddl
