import Ddl.Proofs.Script.Grammar
import Ddl.Proofs.Text.Trim
import Mathlib.Data.List.Induction

/-! The lexemes of a script stay what they are when it is cut between two of them, when it goes on
in a new line, and when white space is taken off its ends. -/

namespace Ddl

variable {text after keep cut more : Text}

/-- The close at the end of a comment is no white space. -/
theorem CommentStyle.Rest.exists_last {style : CommentStyle} {around : Nat}
    (rest : style.Rest around text) :
    ∃ front last, text = front ++ [last] ∧ isSpace last = false := by
  -- The characters in front of the rest of a rest leave its end as it is.
  have behind : ∀ (front : Text) {rest : Text}, (∃ before last, rest = before ++ [last] ∧
      isSpace last = false) → ∃ before last, front ++ rest = before ++ [last] ∧
      isSpace last = false := by
    rintro front rest ⟨before, last, rfl, solid⟩
    exact ⟨front ++ before, last, (List.append_assoc _ _ _).symm, solid⟩
  induction rest with
  | @close first second closes =>
    have ends : second = '/' ∨ second = '}' := by
      cases style <;> simp_all [isClose]
    rcases ends with rfl | rfl
    · exact ⟨[first], _, rfl, by decide⟩
    · exact ⟨[first], _, rfl, by decide⟩
  | @pass _ first _ _ _ _ _ _ ih => exact behind [first] ih
  | @leave _ first _ _ _ _ _ _ ih => exact behind [first] ih
  | @enter _ first second third _ _ _ _ ih => exact behind [first, second, third] ih
  | @renew _ first second third _ _ _ _ ih => exact behind [first, second, third] ih

/-- A comment stands in front of the beginning of what it can stand in front of. -/
theorem IsComment.shorten (isComment : IsComment text (keep ++ cut)) : IsComment text keep := by
  -- A line comment is ended by the next character, which is the same one.
  cases isComment with
  | line inside ends =>
    refine .line inside fun char first => ends char ?_
    rw [List.head?_append, Option.mem_def.mp first]
    rfl
  | block rest apart => exact .block rest apart

/-- A literal stands in front of the beginning of what it can stand in front of. -/
theorem IsLiteral.shorten (isLiteral : IsLiteral text (keep ++ cut)) : IsLiteral text keep := by
  -- The next character is the same one, and no quote.
  cases isLiteral with
  | quoted quote ends =>
    refine .quoted quote fun first => ends ?_
    rw [List.head?_append, first]
    rfl

namespace Lexeme

variable {lexeme : Lexeme} {lexemes front back short : List Lexeme} {char : Char}

/-- A lexeme can also stand in front of a part of what it can stand in front of. -/
theorem Stands.shorten (stands : lexeme.Stands (keep ++ cut)) : lexeme.Stands keep := by
  -- Only comments, literals and openings depend on what follows them.
  cases stands with
  | space blank => exact .space blank
  | comment isComment => exact .comment isComment.shorten
  | semicolon => exact .semicolon
  | literal isLiteral => exact .literal isLiteral.shorten
  | marker among => exact .marker among
  | other solid plain =>
    refine .other solid fun opening member inside => plain opening member ?_
    exact inside.trans (List.prefix_append _ _)

/-- What has no line feed begins with nothing that a new line adds to a text. -/
theorem prefix_of_not_mem {opening : Text} (absent : '\n' ∉ opening)
    (breaks : more.head? = some '\n') (inside : opening <+: text ++ more) : opening <+: text := by
  rcases List.prefix_or_prefix_of_prefix inside (List.prefix_append text more) with within | beyond
  · exact within
  · obtain ⟨rest, rfl⟩ := beyond
    rw [List.prefix_append_right_inj] at inside
    cases rest with
    | nil => simp
    | cons char rest =>
      -- The first character beyond the text would be the line feed.
      obtain ⟨later, rfl⟩ := inside
      obtain rfl : char = '\n' := by simpa using breaks
      simp at absent

/-- A line feed behind a lexeme belongs to another lexeme. -/
theorem Stands.extend (stands : lexeme.Stands after) (breaks : more.head? = some '\n') :
    lexeme.Stands (after ++ more) := by
  -- If nothing stood behind the lexeme, then the line feed is what stands there now.
  have head : (after ++ more).head? = after.head? ∨ (after ++ more).head? = some '\n' := by
    cases after with
    | nil => exact .inr breaks
    | cons char later => exact .inl rfl
  -- Only comments, literals and openings depend on what follows them.
  cases stands with
  | space blank => exact .space blank
  | comment isComment =>
    refine .comment ?_
    cases isComment with
    | line inside ends =>
      refine .line inside fun char first => ?_
      rcases head with same | feed
      · exact ends char (same ▸ first)
      · obtain rfl : '\n' = char := by simpa [feed] using first
        rfl
    | block rest apart => exact .block rest apart
  | semicolon => exact .semicolon
  | literal isLiteral =>
    refine .literal ?_
    cases isLiteral with
    | quoted quote ends =>
      refine .quoted quote fun first => ?_
      rcases head with same | feed
      · exact ends (same ▸ first)
      · obtain rfl : '\n' = _ := by simpa [feed] using first
        exact absurd quote (by decide)
  | marker among => exact .marker among
  -- No opening holds a line feed, so that none is completed by the text behind.
  | other solid plain =>
    refine .other solid fun opening member inside => plain opening member ?_
    have absent : ∀ opening ∈ openings, '\n' ∉ opening := by decide
    exact prefix_of_not_mem (absent opening member) breaks inside

/-- Lexemes also fit in front of others that write only the beginning of what stood there. -/
theorem Fits.shorten (fits : Fits (front ++ back)) (ends : Fits short)
    (less : short.flatMap Lexeme.text <+: back.flatMap Lexeme.text) : Fits (front ++ short) := by
  -- Each lexeme in front stands before less than it did.
  induction front with
  | nil => exact ends
  | cons lexeme front ih =>
    obtain ⟨cut, same⟩ := less
    rw [List.cons_append, fits_cons] at fits
    obtain ⟨stands, fits⟩ := fits
    rw [List.cons_append, fits_cons]
    refine ⟨?_, ih fits⟩
    rw [List.flatMap_append, ← same, ← List.append_assoc] at stands
    rw [List.flatMap_append]
    exact stands.shorten

/-- The first lexemes fit by themselves. -/
theorem Fits.left (fits : Fits (front ++ back)) : Fits front := by
  simpa using fits.shorten fits_nil List.nil_prefix

/-- The last lexemes fit by themselves. -/
theorem Fits.right (fits : Fits (front ++ back)) : Fits back := by
  induction front with
  | nil => exact fits
  | cons lexeme front ih => exact ih fits.2

/-- A text with a new line behind it is scanned like the text alone, and then the new line is. -/
theorem scan_append (scanned : scan text = .ok lexemes) (breaks : more.head? = some '\n') :
    scan (text ++ more) = (scan more).map (lexemes ++ ·) := by
  -- Each lexeme stands in front of the new line as it stood in front of what was there.
  obtain ⟨fits, rfl⟩ := scan_eq_ok_iff.mp scanned
  clear scanned
  induction lexemes with
  | nil => cases scanned : scan more <;> simp [scanned, Except.map]
  | cons lexeme later ih =>
    rw [List.flatMap_cons, List.append_assoc, scan_text_append (fits.1.extend breaks), ih fits.2]
    cases scanned : scan more <;> simp [Except.map]

/-- Whether the lexeme tells statements apart. -/
def counts : Lexeme → Bool
  | semicolon => true
  | token _ => true
  | _ => false

/-- White space is a lexeme in front of all others. -/
theorem scan_cons_space (blank : isSpace char = true) (rest : Text) :
    scan (char :: rest) = (scan rest).map (space char :: ·) :=
  scan_text_append (.space blank)

/-- White space in front of a script is no part of its other lexemes. -/
theorem exists_scan_of_blank_append {space : Text} (blank : space.isBlank = true)
    (scanned : scan (space ++ text) = .ok lexemes) :
    ∃ fewer, scan text = .ok fewer ∧ fewer.filter counts = lexemes.filter counts := by
  -- Each character of white space is a lexeme of its own.
  induction space generalizing lexemes with
  | nil => exact ⟨lexemes, scanned, rfl⟩
  | cons char space ih =>
    rw [Text.isBlank, List.all_cons, Bool.and_eq_true] at blank
    rw [List.cons_append, scan_cons_space blank.1] at scanned
    obtain ⟨later, others, rfl⟩ := ok_of_map scanned
    obtain ⟨fewer, scanned, same⟩ := ih blank.2 others
    exact ⟨fewer, scanned, same⟩

/-- Only white space and line comments can end with white space. -/
theorem Stands.last_cases (stands : lexeme.Stands after) :
    (∃ char, lexeme = Lexeme.space char) ∨
      (∃ words, lexeme = Lexeme.comment ('-' :: '-' :: words) ∧
        ∀ char ∈ words, endsLine char = false) ∨
      ∃ front last, lexeme.text = front ++ [last] ∧ isSpace last = false := by
  -- The last character of each other kind is a visible one.
  cases stands with
  | space blank => exact .inl ⟨_, rfl⟩
  | comment isComment =>
    cases isComment with
    | line inside ends => exact .inr (.inl ⟨_, rfl, inside⟩)
    | block rest apart =>
      obtain ⟨front, last, rfl, solid⟩ := rest.exists_last
      exact .inr (.inr ⟨_, last, (List.append_assoc _ _ _).symm, solid⟩)
  | semicolon => exact .inr (.inr ⟨[], ';', rfl, by decide⟩)
  | literal isLiteral =>
    cases isLiteral with
    | quoted quote ends => exact .inr (.inr ⟨_ :: _, _, rfl, isSpace_of_isQuote quote⟩)
  | marker among =>
    simp only [markers, List.mem_cons, List.not_mem_nil, or_false] at among
    rcases among with rfl | rfl | rfl
    · exact .inr (.inr ⟨['-', '|'], '-', rfl, by decide⟩)
    · exact .inr (.inr ⟨['{', '{'], '-', rfl, by decide⟩)
    · exact .inr (.inr ⟨['{', '%'], '-', rfl, by decide⟩)
  | other solid plain => exact .inr (.inr ⟨[], _, rfl, solid⟩)

/-- A script that ends with a line comment loses white space at its end from this comment. -/
theorem exists_scan_of_line {words : Text} (blank : isSpace char = true)
    (fits : Fits (front ++ [comment ('-' :: '-' :: words)]))
    (inside : ∀ char ∈ words, endsLine char = false)
    (same : text ++ [char] = front.flatMap Lexeme.text ++ '-' :: '-' :: words) :
    ∃ less, scan text = .ok (front ++ [comment less]) := by
  obtain rfl | ⟨words, last, rfl⟩ := List.eq_nil_or_concat words
  · -- The hyphens of a line comment are no white space.
    have ends : text ++ [char] = (front.flatMap Lexeme.text ++ ['-']) ++ ['-'] := by
      simpa using same
    obtain ⟨_, hyphen⟩ := List.append_inj' ends rfl
    obtain rfl : char = '-' := by simpa using hyphen
    exact absurd blank (by decide)
  · have ends : text ++ [char] =
        (front.flatMap Lexeme.text ++ '-' :: '-' :: words) ++ [last] := by
      simpa using same
    obtain ⟨rfl, _⟩ := List.append_inj' ends rfl
    have stands : (comment ('-' :: '-' :: words)).Stands [] :=
      .comment (.line (fun char member => inside char (by simp [member])) (by simp))
    have shorter : Fits (front ++ [comment ('-' :: '-' :: words)]) :=
      fits.shorten ⟨stands, trivial⟩ ⟨[last], by simp [Lexeme.text]⟩
    exact ⟨_, scan_eq_ok_iff.mpr ⟨shorter, by simp [Lexeme.text]⟩⟩

/-- A script without the white space that it ends with has the same lexemes otherwise. -/
theorem exists_scan_of_append_space (blank : isSpace char = true)
    (scanned : scan (text ++ [char]) = .ok lexemes) :
    ∃ fewer, scan text = .ok fewer ∧ fewer.filter counts = lexemes.filter counts := by
  obtain ⟨fits, same⟩ := scan_eq_ok_iff.mp scanned
  obtain rfl | ⟨front, last, rfl⟩ := List.eq_nil_or_concat lexemes
  · simp at same
  rw [List.concat_eq_append] at fits same ⊢
  rw [List.flatMap_append, List.flatMap_singleton] at same
  rcases fits.right.1.last_cases with ⟨_, rfl⟩ | ⟨words, rfl, inside⟩ | ⟨before, last, ends, solid⟩
  · -- The white space is a lexeme by itself.
    obtain ⟨rfl, _⟩ := List.append_inj' same rfl
    exact ⟨front, scan_eq_ok_iff.mpr ⟨fits.left, rfl⟩, by simp [counts]⟩
  · obtain ⟨less, scanned⟩ := exists_scan_of_line blank fits inside same
    exact ⟨_, scanned, by simp [counts]⟩
  · -- No other lexeme ends with white space.
    rw [ends, ← List.append_assoc] at same
    obtain ⟨_, rest⟩ := List.append_inj' same rfl
    obtain rfl : char = last := by simpa using rest
    simp [blank] at solid

/-- White space behind a script is no part of its other lexemes. -/
theorem exists_scan_of_append_blank {space : Text} (blank : space.isBlank = true)
    (scanned : scan (text ++ space) = .ok lexemes) :
    ∃ fewer, scan text = .ok fewer ∧ fewer.filter counts = lexemes.filter counts := by
  -- The white space is taken off from behind, one character after the other.
  induction space using List.reverseRecOn generalizing lexemes with
  | nil => exact ⟨lexemes, by simpa using scanned, rfl⟩
  | append_singleton space char ih =>
    rw [Text.isBlank, List.all_append, Bool.and_eq_true] at blank
    rw [← List.append_assoc] at scanned
    obtain ⟨fewer, others, same⟩ := exists_scan_of_append_space (by simpa using blank.2) scanned
    obtain ⟨least, found, less⟩ := ih blank.1 others
    exact ⟨least, found, less.trans same⟩

/-- A script without the white space at its ends has the same lexemes otherwise. -/
theorem exists_scan_trim (scanned : scan text = .ok lexemes) :
    ∃ fewer, scan text.trim = .ok fewer ∧ fewer.filter counts = lexemes.filter counts := by
  -- White space in front is taken away first, and then that at the end.
  obtain ⟨before, after, whole, blankBefore, blankAfter⟩ := Text.exists_trim text
  rw [whole] at scanned
  obtain ⟨behind, found, same⟩ := exists_scan_of_blank_append blankBefore scanned
  obtain ⟨between, trimmed, less⟩ := exists_scan_of_append_blank blankAfter found
  exact ⟨between, trimmed, less.trans same⟩

end Lexeme

end Ddl
