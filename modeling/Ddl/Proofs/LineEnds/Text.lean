import Ddl.Proofs.Comment.Line

/-! Carriage returns in front of line feeds leave no trace in the normal form of a statement. -/

namespace Ddl

/-- A visible character is no line feed. -/
theorem ne_line_feed {char : Char} (solid : isSpace char = false) : char ≠ '\n' := by
  rintro rfl
  exact absurd solid (by decide)

namespace Text

variable {text rest : Text} {char : Char}

/-- The text with a carriage return in front of each line feed. -/
def crlf (text : Text) : Text :=
  text.flatMap fun char => if char = '\n' then ['\r', '\n'] else [char]

/-- The text with a carriage return in place of each line feed. -/
def cr (text : Text) : Text :=
  text.map fun char => if char = '\n' then '\r' else char

/-- Nothing is put into the empty text. -/
@[simp] theorem crlf_nil : crlf [] = [] := rfl

/-- A carriage return is put in front of a line feed. -/
@[simp] theorem crlf_line_feed (rest : Text) : crlf ('\n' :: rest) = '\r' :: '\n' :: crlf rest :=
  rfl

/-- Nothing is put in front of another character. -/
theorem crlf_cons (other : char ≠ '\n') (rest : Text) :
    crlf (char :: rest) = char :: crlf rest := by
  simp [crlf, other]

/-- What is put in front of a character, which is nothing but in front of a line feed. -/
def carriage (char : Char) : Text :=
  if char = '\n' then ['\r'] else []

/-- Each character comes with what is put in front of it. -/
theorem crlf_cons_carriage (char : Char) (rest : Text) :
    crlf (char :: rest) = carriage char ++ char :: crlf rest := by
  by_cases feed : char = '\n' <;> simp [crlf, carriage, feed]

/-- Two texts are changed one after the other. -/
@[simp] theorem crlf_append (front back : Text) : crlf (front ++ back) = crlf front ++ crlf back :=
  List.flatMap_append

/-- Only the empty text becomes empty. -/
@[simp] theorem crlf_eq_nil : crlf text = [] ↔ text = [] := by
  cases text with
  | nil => simp
  | cons char rest => by_cases feed : char = '\n' <;> simp [crlf, feed]

/-- The text begins with the same character, unless it begins with a line feed. -/
theorem head?_crlf (other : char ≠ '\n') (solid : char ≠ '\r') :
    (crlf text).head? = some char ↔ text.head? = some char := by
  -- A line feed is not the first character any more, and others are.
  cases text with
  | nil => rfl
  | cons first rest =>
    by_cases feed : first = '\n'
    · subst feed
      simp [other.symm, solid.symm]
    · simp [crlf_cons feed]

/-- A text that begins with a visible character begins with it before the change too. -/
theorem exists_of_crlf_eq_cons (other : char ≠ '\n') (solid : char ≠ '\r')
    (begins : crlf text = char :: rest) : ∃ later, text = char :: later ∧ rest = crlf later := by
  -- The first character was there before, and what follows it is changed on its own.
  have first : text.head? = some char := by
    rw [← head?_crlf other solid, begins, List.head?_cons]
  obtain ⟨later, rfl⟩ := List.head?_eq_some_iff.mp first
  rw [crlf_cons other, List.cons.injEq] at begins
  exact ⟨later, rfl, begins.2.symm⟩

/-- A text that does not begin with certain visible characters does not begin with them after the
change. -/
theorem absent_crlf (front : Text) (solid : front.any isSpace = false)
    (absent : ∀ later, text = front ++ later → False) (later : Text) :
    crlf text ≠ front ++ later := by
  intro begins
  -- The characters are found one by one in the text before the change.
  induction front generalizing text with
  | nil => exact absent text rfl
  | cons char front ih =>
    rw [List.any_cons, Bool.or_eq_false_iff] at solid
    obtain ⟨rest, rfl, same⟩ := exists_of_crlf_eq_cons (ne_line_feed solid.1)
      (by rintro rfl; exact absurd solid.1 (by decide)) begins
    exact ih solid.2 (fun later same => absent later (congrArg (char :: ·) same)) same.symm

/-- White space stays white space. -/
theorem isBlank_crlf (blank : text.isBlank = true) : (crlf text).isBlank = true := by
  have spaces : isSpace '\r' = true ∧ isSpace '\n' = true := by decide
  rw [isBlank, List.all_eq_true] at *
  intro char member
  obtain ⟨source, inside, made⟩ := List.mem_flatMap.mp member
  split at made
  · -- Both characters at the end of a line are white space.
    rw [List.mem_cons, List.mem_singleton] at made
    rcases made with rfl | rfl
    · exact spaces.1
    · exact spaces.2
  · exact List.mem_singleton.mp made ▸ blank source inside

/-- A text that begins and ends with visible characters still does. -/
theorem tight_crlf (tight : text.Tight) : (crlf text).Tight where
  head := by
    obtain ⟨char, first, solid⟩ := tight.head
    obtain ⟨later, rfl⟩ := List.head?_eq_some_iff.mp first
    exact ⟨char, by rw [crlf_cons (ne_line_feed solid)]; rfl, solid⟩
  last := by
    -- The last character is visible, and so nothing is put in front of it.
    obtain ⟨char, last, solid⟩ := tight.last
    obtain ⟨earlier, rfl⟩ := List.getLast?_eq_some_iff.mp last
    exact ⟨char, by simp [crlf_cons (ne_line_feed solid)], solid⟩

/-- White space at the ends of a text is removed before the change as after it. -/
theorem trim_crlf (text : Text) : (crlf text).trim = crlf text.trim := by
  -- White space in front and behind is changed to white space, and what is between stays tight.
  obtain ⟨before, after, whole, blankBefore, blankAfter⟩ := exists_trim text
  -- Either nothing is left or it begins and ends with visible characters.
  have kept : (crlf text.trim).trim = crlf text.trim := by
    by_cases empty : text.trim = []
    · rw [empty]
      rfl
    · exact trim_of_tight (tight_crlf (tight_trim empty))
  have changed : crlf text = crlf before ++ (crlf text.trim ++ crlf after) := by
    rw [← crlf_append, ← crlf_append, ← whole]
  rw [changed, trim_between_blanks (isBlank_crlf blankBefore) (isBlank_crlf blankAfter), kept]

end Text

/-- The carriage returns that are not left out together with line comments are additional white
space. -/
theorem LineComment.widened_crlf (inside afterSpace : Bool) (text : Text) :
    Text.Widened afterSpace (dropFrom inside text.crlf) (dropFrom inside text) := by
  have feed : isSpace '\n' = true := by decide
  have carriage : isSpace '\r' = true := by decide
  fun_induction dropFrom inside text generalizing afterSpace with
  | case1 => exact .ends rfl
  | case2 rest ih =>
    -- The carriage return is left out together with the comment that it stands in.
    exact .space feed feed (ih true)
  | case3 char rest other ih =>
    rw [Text.crlf_cons other, dropFrom, if_neg other]
    exact ih afterSpace
  | case4 rest ih => exact ih afterSpace
  | case5 char rest single ih =>
    have begins : (Text.crlf rest).head? = some '-' ↔ rest.head? = some '-' :=
      Text.head?_crlf (by decide) (by decide)
    by_cases same : char = '\n'
    · subst same
      -- Outside of a comment the carriage return is kept, and the line feed is more white space.
      exact .space carriage feed (.more feed (ih true))
    · rw [Text.crlf_cons same, dropFrom_cons (Text.apart_of_absent begins single)]
      cases blank : isSpace char with
      | false => exact .solid blank (ih false)
      | true => exact .space blank blank (ih true)

/-- A statement with carriage returns in front of its line feeds has the same normal form. -/
theorem normalize_crlf (text : Text) : normalize text.crlf = normalize text :=
  (BlockComment.widened_dropFrom false (LineComment.widened_crlf false false text)).trim_collapse

/-- The statement gives the same table, or the same fault. -/
theorem Table.ofStatement_crlf (text : Text) : ofStatement text.crlf = ofStatement text := by
  rw [ofStatement, normalize_crlf, ← ofStatement]

end Ddl
