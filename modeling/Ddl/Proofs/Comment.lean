import Ddl.Proofs.Text.Collapse
import Ddl.Table.Statement

/-! A block comment leaves no trace in the normal form of a statement, unless a line comment that is
opened in its last line hides its end. -/

namespace Ddl

/-- A place where two characters do not stand stays so behind a change that keeps the character in
front of it, and does not put the second one there. -/
theorem Text.apart_of_absent {text changed : Text} {char first second : Char}
    (same : changed.head? = some second ↔ text.head? = some second)
    (absent : ∀ later, char = first → text = second :: later → False) :
    char ≠ first ∨ changed.head? ≠ some second := by
  -- Both characters would stand in the text as well.
  rw [ne_eq, ne_eq, same, ← not_and_or]
  rintro ⟨begins, head⟩
  obtain ⟨later, goesOn⟩ := List.head?_eq_some_iff.mp head
  exact absent later begins goesOn

namespace LineComment

variable {char : Char} {text rest : Text} {inside : Bool}

/-- Whether a line comment is open at the end of a text, read from inside of one or from outside. -/
def isOpen : Bool → Text → Bool
  | inside, [] => inside
  | true, char :: rest => if char = '\n' then isOpen false rest else isOpen true rest
  | false, '-' :: '-' :: rest => isOpen true rest
  | false, _ :: rest => isOpen false rest

/-- All line comments in a text end in it. -/
def Ends (text : Text) : Prop :=
  ∀ before after, text = before ++ '-' :: '-' :: after → '\n' ∈ after

/-- A character at which no line comment begins is kept. -/
theorem dropFrom_cons (apart : char ≠ '-' ∨ text.head? ≠ some '-') :
    dropFrom false (char :: text) = char :: dropFrom false text := by
  rw [dropFrom]
  rintro later rfl rfl
  simp at apart

/-- What stands behind a text is read from inside of the line comment that is open there. -/
theorem dropFrom_append (inside : Bool) (text : Text) (apart : rest.head? ≠ some '-') :
    dropFrom inside (text ++ rest) =
      dropFrom inside text ++ dropFrom (isOpen inside text) rest := by
  -- No comment begins where the texts meet, and inside of one the rest is read from there.
  fun_induction isOpen inside text with
  | case1 => simp [dropFrom]
  | case2 rest ih => simp [dropFrom, ih]
  | case3 char rest other ih => simp [dropFrom, other, ih]
  | case4 rest ih => simp [dropFrom, ih]
  | case5 char text other ih =>
    -- No line comment begins here, since the hyphen is the only one.
    have single : char ≠ '-' ∨ text.head? ≠ some '-' := by
      by_contra both
      rw [not_or, not_not, not_not] at both
      obtain ⟨later, rfl⟩ := List.head?_eq_some_iff.mp both.2
      exact other later both.1 rfl
    have still : char ≠ '-' ∨ (text ++ rest).head? ≠ some '-' := by
      cases text with
      | nil => exact .inr apart
      | cons first later => exact single
    rw [List.cons_append, dropFrom_cons still, dropFrom_cons single, ih, List.cons_append]

/-- A line comment goes on where there is no line feed. -/
theorem isOpen_of_not_mem (absent : '\n' ∉ text) : isOpen true text = true := by
  -- No character of the text ends the comment.
  induction text with
  | nil => rfl
  | cons char later ih =>
    rw [List.mem_cons, not_or] at absent
    rw [isOpen, if_neg (Ne.symm absent.1), ih absent.2]

/-- A line comment that begins in a text and does not end in it is open behind it. -/
theorem isOpen_of_hyphens {before after : Text} (absent : '\n' ∉ after)
    (split : text = before ++ '-' :: '-' :: after) : isOpen inside text = true := by
  have rest : '\n' ∉ '-' :: after := by simpa using absent
  -- The hyphens stand behind the first character, or they are looked at now.
  fun_induction isOpen inside text generalizing before with
  | case1 => simp at split
  | case2 later ih =>
    cases before with
    | nil => simp at split
    | cons _ before => exact ih (List.cons.inj split).2
  | case3 char later other ih =>
    cases before with
    | nil =>
      obtain ⟨_, rfl⟩ := List.cons.inj split
      exact isOpen_of_not_mem rest
    | cons _ before => exact ih (List.cons.inj split).2
  | case4 later ih =>
    -- The line comment that is opened here goes on to the end when the other one does.
    rcases before with _ | ⟨_, _ | ⟨_, before⟩⟩
    · obtain rfl : later = after := by simpa using split
      exact isOpen_of_not_mem absent
    · obtain ⟨_, rfl⟩ : _ ∧ later = '-' :: after := by simpa using split
      exact isOpen_of_not_mem rest
    · exact ih (List.cons.inj (List.cons.inj split).2).2
  | case5 char later other ih =>
    cases before with
    | nil =>
      obtain ⟨rfl, rfl⟩ := List.cons.inj split
      exact absurd rfl (other after rfl)
    | cons _ before => exact ih (List.cons.inj split).2

/-- What stands behind another text has only line comments that the whole has. -/
theorem Ends.of_append {front : Text} (ends : Ends (front ++ text)) : Ends text :=
  fun before after split => ends (front ++ before) after (by rw [split, List.append_assoc])

/-- A line comment that is open behind a text was open in front of it or has begun in it. -/
theorem not_ends_of_isOpen (opened : isOpen inside text = true) :
    (inside = true ∧ '\n' ∉ text) ∨ ¬Ends text := by
  have later : ∀ (front : Text) {text : Text}, ¬Ends text → ¬Ends (front ++ text) :=
    fun _ _ begun ends => begun ends.of_append
  -- The comment that is open at last was open all the time, or there is a place where it began.
  fun_induction isOpen inside text with
  | case1 => exact .inl ⟨opened, by simp⟩
  -- A line feed closes the comment, so the one that is open began behind it.
  | case2 rest ih =>
    rcases ih opened with ⟨none, _⟩ | begun
    · cases none
    · exact .inr (later ['\n'] begun)
  | case3 char rest other ih =>
    rcases ih opened with ⟨_, absent⟩ | begun
    · exact .inl ⟨rfl, by simpa [absent] using Ne.symm other⟩
    · exact .inr (later [char] begun)
  -- Here a comment begins, which a line feed may close.
  | case4 rest ih =>
    rcases ih opened with ⟨_, absent⟩ | begun
    · exact .inr fun ends => absent (ends [] rest rfl)
    · exact .inr (later ['-', '-'] begun)
  | case5 char rest other ih =>
    rcases ih opened with ⟨none, _⟩ | begun
    · cases none
    · exact .inr (later [char] begun)

/-- No line comment is open behind a text just when all that begin in it end in it. -/
theorem isOpen_eq_false_iff : isOpen false text = false ↔ Ends text := by
  -- A comment that does not end is open at last, and one that is open has not ended.
  constructor
  · intro closed before after split
    by_contra absent
    rw [isOpen_of_hyphens absent split] at closed
    cases closed
  · intro ends
    rw [Bool.eq_false_iff]
    intro opened
    rcases not_ends_of_isOpen opened with ⟨none, _⟩ | goesOn
    · cases none
    · exact goesOn ends

/-- Inside of a line comment nothing is kept up to the next line feed, behind which none begins. -/
theorem dropFrom_true (absent : ¬['-', '-'] <:+: text) :
    dropFrom true text = text.dropWhile (· ≠ '\n') := by
  -- The line feed ends the comment, and behind it nothing is left out.
  induction text with
  | nil => rfl
  | cons char later ih =>
    have absentLater : ¬['-', '-'] <:+: later := fun found =>
      absent (found.trans (List.suffix_cons _ _).isInfix)
    by_cases feed : char = '\n'
    · simp [dropFrom, feed, show dropFrom false later = later from drop_eq_self absentLater]
    · simp [dropFrom, feed, ih absentLater]

/-- What is kept behind a line comment begins with the line feed that ends it. -/
theorem head?_dropFrom_true (begins : (dropFrom true text).head? = some char) : char = '\n' := by
  -- Everything in front of a line feed is left out.
  induction text with
  | nil => simp [dropFrom] at begins
  | cons first later ih =>
    by_cases feed : first = '\n'
    · simpa [dropFrom, feed, eq_comm] using begins
    · exact ih (by simpa [dropFrom, feed] using begins)

/-- What is kept of a text begins with its first character, or with a line feed. -/
theorem head?_dropFrom_false (other : char ≠ '\n')
    (begins : (dropFrom false text).head? = some char) : text.head? = some char := by
  -- Either the first character is kept or a comment begins there.
  unfold dropFrom at begins
  split at begins
  · exact begins
  · contradiction
  · exact absurd (head?_dropFrom_true begins) other
  · exact begins

/-- Leaving out line comments makes no new neighbours, since the line feeds behind them are kept. -/
theorem pair_of_dropFrom {first second : Char} (other : second ≠ '\n')
    (pair : [first, second] <:+: dropFrom inside text) : [first, second] <:+: text := by
  -- A character that is kept has the neighbour that it had before.
  have kept : ∀ {char : Char} {later : Text},
      ([first, second] <:+: dropFrom false later → [first, second] <:+: later) →
      [first, second] <:+: char :: dropFrom false later → [first, second] <:+: char :: later := by
    intro char later ih pair
    rw [List.infix_cons_iff, Text.pair_prefix_cons] at pair ⊢
    exact pair.imp (And.imp_right (head?_dropFrom_false other)) ih
  fun_induction dropFrom inside text with
  | case1 => exact pair
  | case2 later ih => exact kept ih pair
  | case3 char later _ ih => exact (ih pair).trans (List.suffix_cons _ _).isInfix
  | case4 later ih => exact (ih pair).trans (List.suffix_append ['-', '-'] _).isInfix
  | case5 char later _ ih => exact kept ih pair

/-- What line comments leave is a part of the text, in the same order. -/
theorem dropFrom_sublist (inside : Bool) (text : Text) :
    (dropFrom inside text).Sublist text := by
  -- Each branch keeps its characters or leaves them out.
  fun_induction dropFrom inside text with
  | case1 => exact .slnil
  | case2 rest ih => exact ih.cons_cons _
  | case3 char rest _ ih => exact ih.cons _
  | case4 rest ih => exact (ih.cons _).cons _
  | case5 char rest _ ih => exact ih.cons_cons _

end LineComment

namespace BlockComment

variable {text rest inside front : Text}

/-- A block comment is closed by a text when its two signs stand in it next to each other. -/
theorem closes_iff : closes text = true ↔ ['*', '/'] <:+: text := by
  -- The signs stand at the beginning or later.
  fun_induction closes text with
  | case1 => simp
  | case2 rest => simpa using ⟨[], rest, rfl⟩
  | case3 char rest other ih =>
    rw [ih, List.infix_cons_iff, or_iff_right]
    rintro ⟨later, same⟩
    obtain ⟨rfl, rfl⟩ := List.cons.inj same
    exact other later rfl rfl

/-- A character at which no block comment begins is kept. -/
theorem dropFrom_cons {char : Char} (apart : char ≠ '/' ∨ text.head? ≠ some '*') :
    dropFrom false (char :: text) = char :: dropFrom false text := by
  rw [dropFrom]
  rintro later rfl rfl
  simp at apart

/-- Inside of a block comment a character is left out when it does not begin the close. -/
theorem dropFrom_true_cons {char : Char} (apart : char ≠ '*' ∨ text.head? ≠ some '/') :
    dropFrom true (char :: text) = dropFrom true text := by
  rw [dropFrom]
  rintro later rfl rfl
  simp at apart

/-- Leaving out block comments keeps nothing but white space of white space. -/
theorem isBlank_dropFrom {inside : Bool} (blank : Text.isBlank text = true) :
    Text.isBlank (dropFrom inside text) = true := by
  have star : isSpace '*' = false := by decide
  rw [Text.isBlank, List.all_eq_true] at *
  fun_induction dropFrom inside text <;> simp_all

/-- A text in which no block comment begins is kept in front of others. -/
theorem dropFrom_append (absent : ¬['/', '*'] <:+: front) (apart : rest.head? ≠ some '*') :
    dropFrom false (front ++ rest) = front ++ dropFrom false rest := by
  -- Each character is kept, since a comment begins neither in the text nor at its end.
  induction front with
  | nil => rfl
  | cons char later ih =>
    rw [List.infix_cons_iff, Text.pair_prefix_cons, not_or] at absent
    have single : char ≠ '/' ∨ (later ++ rest).head? ≠ some '*' := by
      cases later with
      | nil => exact .inr apart
      | cons first more =>
        by_contra both
        rw [not_or, not_not, not_not] at both
        exact absent.1 ⟨both.1.symm, both.2⟩
    rw [List.cons_append, dropFrom_cons single, ih absent.2, List.cons_append]

/-- A block comment ends with its first close. -/
theorem dropFrom_close (absent : ¬['*', '/'] <:+: inside) (rest : Text) :
    dropFrom true (inside ++ '*' :: '/' :: rest) = dropFrom false rest := by
  -- Inside of the comment no character is kept, and none of them begins a close.
  induction inside with
  | nil => rw [List.nil_append, dropFrom]
  | cons char later ih =>
    rw [List.infix_cons_iff, Text.pair_prefix_cons, not_or] at absent
    rw [List.cons_append, dropFrom, ih absent.2]
    rintro more rfl same
    cases later with
    | nil => simp at same
    | cons first others =>
      obtain ⟨rfl, _⟩ := List.cons.inj same
      exact absent.1 ⟨rfl, rfl⟩

/-- A text with closes in it has a first one. -/
theorem exists_first_close (present : ['*', '/'] <:+: text) :
    ∃ before after, text = before ++ '*' :: '/' :: after ∧ ¬['*', '/'] <:+: before := by
  -- The close at the beginning is the first one, and without it the first one stands later.
  induction text with
  | nil => simp at present
  | cons char later ih =>
    by_cases here : ['*', '/'] <+: char :: later
    · obtain ⟨after, same⟩ := here
      exact ⟨[], after, same.symm, by simp⟩
    · rw [List.infix_cons_iff, or_iff_right here] at present
      obtain ⟨before, after, rfl, absent⟩ := ih present
      refine ⟨char :: before, after, rfl, ?_⟩
      rw [List.infix_cons_iff, not_or]
      exact ⟨fun early => here (early.trans (List.prefix_append _ _)), absent⟩

/-- A closed comment is left out. -/
theorem drop_closed (noFront : ¬['/', '*'] <:+: front) (noInside : ¬['*', '/'] <:+: inside)
    (noRest : ¬['/', '*'] <:+: rest) :
    drop (front ++ ' ' :: '/' :: '*' :: (inside ++ '*' :: '/' :: rest)) = front ++ ' ' :: rest := by
  -- The comment is found behind the text in front of it, and left out up to its close.
  have closed : closes (inside ++ '*' :: '/' :: rest) = true :=
    closes_iff.mpr ⟨inside, rest, by simp⟩
  rw [drop, dropFrom_append noFront (by simp), dropFrom_cons (by simp), dropFrom, if_pos closed,
    dropFrom_close noInside]
  exact congrArg (front ++ ' ' :: ·) (drop_eq_self noRest)

/-- An opening without a close behind it is kept. -/
theorem drop_unclosed (noFront : ¬['/', '*'] <:+: front) (noInside : ¬['*', '/'] <:+: inside) :
    drop (front ++ ' ' :: '/' :: '*' :: inside) = front ++ ' ' :: '/' :: '*' :: inside := by
  rw [drop, dropFrom_append noFront (by simp), dropFrom_cons (by simp), dropFrom,
    if_neg (by rwa [closes_iff])]

end BlockComment

open Written

variable {front body back : Text}

/-- Two texts with a block comment between them, and spaces around the comment. -/
def commented (front body back : Text) : Text :=
  front ++ " /*".toList ++ body ++ "*/ ".toList ++ back

/-- The end of the comment is read from inside of the line comment that is open there. -/
theorem LineComment.drop_commented (noFront : NoComment front) (body back : Text) :
    drop (commented front body back) = front ++ ' ' :: '/' :: '*' ::
      (drop body ++ dropFrom (isOpen false body) ('*' :: '/' :: ' ' :: back)) := by
  -- The three parts are read one after another, and no comment is open behind the first one.
  have whole : commented front body back =
      front ++ ' ' :: '/' :: '*' :: (body ++ '*' :: '/' :: ' ' :: back) := by
    simp [commented]
  have closed : isOpen false front = false := isOpen_eq_false_iff.mpr fun before after split =>
    absurd ⟨before, after, by simp [split]⟩ noFront.line
  rw [whole, drop, dropFrom_append false front (by simp), closed, dropFrom_cons (by simp),
    dropFrom_cons (by simp), dropFrom_cons (by simp), dropFrom_append false body (by simp)]
  exact congrArg (· ++ _) (drop_eq_self noFront.line)

/-- Two texts without comments have none together with a space between them. -/
theorem noComment_space (noFront : NoComment front) (noBack : NoComment back) :
    NoComment (front ++ ' ' :: back) := by
  have space : StaysApart [' '] := by simp [StaysApart]
  have behind : NoComment (' ' :: back) := space.noComment.append noBack (.inr space)
  exact noFront.append behind (.inl (by simp [BeginsApart]))

/-- Two texts without comments are only collapsed and trimmed. -/
theorem normalize_space (noFront : NoComment front) (noBack : NoComment back) :
    normalize (front ++ ' ' :: back) = (front ++ ' ' :: back).collapse.trim := by
  have none := noComment_space noFront noBack
  rw [normalize, LineComment.drop_eq_self none.line, BlockComment.drop_eq_self none.block]

/-- A block comment in which all line comments end leaves nothing but white space. -/
theorem normalize_commented_of_ends (noFront : NoComment front) (noBack : NoComment back)
    (unclosed : ¬['*', '/'] <:+: body) (ends : LineComment.Ends body) :
    normalize (commented front body back) = normalize (front ++ ' ' :: back) := by
  -- Line comments take nothing that stands behind the body.
  have nothing : NoComment [] := StaysApart.noComment (by simp [StaysApart])
  have behind : NoComment (' ' :: back) := noComment_space nothing noBack
  have kept : LineComment.dropFrom false ('*' :: '/' :: ' ' :: back) =
      '*' :: '/' :: ' ' :: back := by
    rw [LineComment.dropFrom_cons (by simp), LineComment.dropFrom_cons (by simp)]
    exact congrArg ('*' :: '/' :: ·) (LineComment.drop_eq_self behind.line)
  -- What is left of the body has no close, as the body had none.
  have inner : ¬['*', '/'] <:+: LineComment.drop body := fun found =>
    unclosed (LineComment.pair_of_dropFrom (by decide) found)
  rw [normalize_space noFront noBack, normalize, LineComment.drop_commented noFront,
    LineComment.isOpen_eq_false_iff.mpr ends, kept,
    BlockComment.drop_closed noFront.block inner behind.block, Text.collapse,
    Text.collapseFrom_double_space, ← Text.collapse]

/-- A line comment that goes on behind the body takes away the close of the block comment and the
rest of the line. -/
theorem LineComment.drop_commented_of_not_ends (noFront : NoComment front) (noBack : NoComment back)
    (goesOn : ¬Ends body) : ∃ line kept, back = line ++ kept ∧ kept.head? ≠ some '/' ∧
      drop (commented front body back) = front ++ ' ' :: '/' :: '*' :: (drop body ++ kept) := by
  -- The comment is open behind the body, and goes on to the end of the line.
  have opened : isOpen false body = true := by
    rwa [← isOpen_eq_false_iff, Bool.not_eq_false] at goesOn
  have hidden : dropFrom true ('*' :: '/' :: ' ' :: back) = back.dropWhile (· ≠ '\n') := by
    simpa [dropFrom] using dropFrom_true noBack.line
  refine ⟨back.takeWhile (· ≠ '\n'), back.dropWhile (· ≠ '\n'),
    List.takeWhile_append_dropWhile.symm, fun slash => ?_, ?_⟩
  · have stops := List.head?_dropWhile_not (· ≠ '\n') back
    rw [slash] at stops
    simp at stops
  · rw [drop_commented noFront, opened, hidden]

/-- A block comment whose close is taken away swallows text up to a later close, or it is kept. -/
theorem normalize_commented_of_not_ends (noFront : NoComment front) (noBack : NoComment back)
    (unclosed : ¬['*', '/'] <:+: body) (goesOn : ¬LineComment.Ends body) :
    normalize (commented front body back) ≠ normalize (front ++ ' ' :: back) := by
  have inner : ¬['*', '/'] <:+: LineComment.drop body := fun found =>
    unclosed (LineComment.pair_of_dropFrom (by decide) found)
  have none := noComment_space noFront noBack
  -- The line comment takes the end of the body and what follows on the line.
  obtain ⟨line, kept, rfl, head, dropped⟩ :=
    LineComment.drop_commented_of_not_ends noFront noBack goesOn
  rw [normalize_space noFront noBack, normalize, dropped]
  intro equal
  by_cases closes : ['*', '/'] <:+: kept
  · -- A later close ends the comment, and it is itself missing then.
    obtain ⟨before, after, rfl, first⟩ := BlockComment.exists_first_close closes
    have whole : ¬['*', '/'] <:+: LineComment.drop body ++ before := by
      refine not_pair_append inner first (.inl fun slash => head ?_)
      rw [List.head?_append, slash]
      rfl
    have rest : ¬['/', '*'] <:+: after := fun found =>
      noBack.block (found.trans ⟨line ++ (before ++ ['*', '/']), [], by simp⟩)
    rw [← List.append_assoc, BlockComment.drop_closed noFront.block whole rest] at equal
    have lengths := congrArg (fun text => (text.filter (!isSpace ·)).length) equal
    have space : isSpace ' ' = true ∧ isSpace '/' = false ∧ isSpace '*' = false := by decide
    simp [Text.filter_trim_collapse, space] at lengths
    omega
  · -- The comment is kept with its opening, of which there is none without it.
    have whole : ¬['*', '/'] <:+: LineComment.drop body ++ kept :=
      not_pair_append inner closes (.inl head)
    rw [BlockComment.drop_unclosed noFront.block whole] at equal
    have opening : ['/', '*'] <:+: front ++ ' ' :: '/' :: '*' :: (LineComment.drop body ++ kept) :=
      ⟨front ++ [' '], LineComment.drop body ++ kept, by simp⟩
    rw [← Text.pair_trim_collapse (by decide) (by decide), equal,
      Text.pair_trim_collapse (by decide) (by decide)] at opening
    exact none.block opening

/-- A block comment between two texts without comments leaves no trace in the normal form exactly
when all line comments in it end in it. A statement then gives the same table, or the same fault. -/
theorem normalize_commented_iff (noFront : NoComment front) (noBack : NoComment back)
    (unclosed : ¬['*', '/'] <:+: body) :
    (normalize (commented front body back) = normalize (front ++ ' ' :: back) ↔
      LineComment.Ends body) ∧
    (LineComment.Ends body → Table.ofStatement (commented front body back) =
      Table.ofStatement (front ++ ' ' :: back)) := by
  -- What holds of the normal form holds of all that is read from it.
  have same := normalize_commented_of_ends noFront noBack unclosed
  refine ⟨⟨fun equal => ?_, same⟩, fun ends => ?_⟩
  · by_contra goesOn
    exact normalize_commented_of_not_ends noFront noBack unclosed goesOn equal
  · rw [Table.ofStatement, same ends, ← Table.ofStatement]

/-- A line comment in a body that goes on in the next line, with a quote and a comma there. -/
theorem normalize_commented_iff_lines :
    NoComment "CREATE TABLE t (id INT".toList ∧ NoComment ")".toList ∧
      ¬['*', '/'] <:+: " -- key\n', /* ".toList ∧
      Table.ofStatement (commented "CREATE TABLE t (id INT".toList " -- key\n', /* ".toList
        ")".toList) = Table.ofStatement ("CREATE TABLE t (id INT".toList ++ ' ' :: ")".toList) := by
  have front : NoComment "CREATE TABLE t (id INT".toList := ⟨by decide +kernel, by decide +kernel⟩
  have back : NoComment ")".toList := ⟨by decide +kernel, by decide +kernel⟩
  have unclosed : ¬['*', '/'] <:+: " -- key\n', /* ".toList := by decide +kernel
  have ends : LineComment.Ends " -- key\n', /* ".toList :=
    LineComment.isOpen_eq_false_iff.mp (by decide +kernel)
  exact ⟨front, back, unclosed, (normalize_commented_iff front back unclosed).2 ends⟩

/-- A line comment that is opened inside of a block comment hides the end of the block comment, and
with it the parenthesis that closes the columns. -/
theorem ofStatement_commented_hyphens :
    NoComment "CREATE TABLE t (id INT".toList ∧ NoComment ")".toList ∧
      ¬['*', '/'] <:+: " -- key ".toList ∧
      normalize (commented "CREATE TABLE t (id INT".toList " -- key ".toList ")".toList) =
        "CREATE TABLE t (id INT /*".toList ∧
      normalize "CREATE TABLE t (id INT )".toList = "CREATE TABLE t (id INT )".toList ∧
      Table.ofStatement (commented "CREATE TABLE t (id INT".toList " -- key ".toList ")".toList) =
        .error .missingColumnBlock ∧
      Table.ofStatement "CREATE TABLE t (id INT )".toList = .ok ⟨"t".toList,
        [⟨"id".toList, "INT".toList, true, false, false, none, none⟩], []⟩ := by
  refine ⟨⟨?_, ?_⟩, ⟨?_, ?_⟩, ?_, ?_, ?_, ?_, ?_⟩ <;> decide +kernel

end Ddl
