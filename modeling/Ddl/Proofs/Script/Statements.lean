import Ddl.Proofs.Script.Cuts
import Ddl.Proofs.Separated

/-! Scripts that are written one behind the other give their statements one behind the other, and a
statement of a script is the only statement of itself. -/

namespace Ddl

namespace Lexeme

variable {lexemes part : List Lexeme}

/-- Lexemes that stand next to each other fit by themselves. -/
theorem Fits.of_infix (fits : Fits lexemes) (stretch : part <:+: lexemes) : Fits part := by
  obtain ⟨before, after, rfl⟩ := stretch
  exact fits.left.right

/-- No token is left out with the lexemes that do not count. -/
theorem any_isToken_filter (lexemes : List Lexeme) :
    (lexemes.filter counts).any isToken = lexemes.any isToken := by
  -- White space and comments, which are left out, are no tokens.
  rw [List.any_filter]
  congr 1
  funext lexeme
  cases lexeme <;> rfl

/-- No semicolon is left out with the lexemes that do not count. -/
theorem semicolon_mem_filter : semicolon ∈ lexemes.filter counts ↔ semicolon ∈ lexemes := by
  simp [List.mem_filter, counts]

end Lexeme

namespace Script

open Lexeme

variable {script first second : Text} {found more list : List Text} {lexemes chunk : List Lexeme}

/-- What ends a statement and stands on a line of its own. -/
def cut : Text := ['\n', ';']

/-- The text is the one statement that it holds. -/
def IsStatement (text : Text) : Prop :=
  statements text = .ok [text]

/-- A script has the statements of the chunks of its lexemes. -/
theorem statements_eq_ok_iff : statements script = .ok found ↔
    ∃ lexemes, scan script = .ok lexemes ∧ (chunks lexemes).filterMap statement? = found := by
  unfold statements
  cases scan script <;> simp

/-- A script is refused when its scan fails. -/
theorem statements_eq_error_iff : (∃ error, statements script = .error error) ↔
    ∃ fault, scan script = .error fault := by
  unfold statements
  cases scan script <;> simp

/-- The empty script has no statements. -/
theorem statements_nil : statements [] = .ok [] :=
  statements_eq_ok_iff.mpr ⟨[], scan_nil, rfl⟩

/-- A script without semicolons is one chunk. -/
theorem chunks_eq_singleton (single : semicolon ∉ lexemes) : chunks lexemes = [lexemes] := by
  -- No lexeme in it separates chunks.
  refine Separated.parts_eq_singleton fun lexeme member => ?_
  rw [beq_eq_false_iff_ne]
  rintro rfl
  exact single member

/-- The chunks on both sides of a semicolon do not depend on each other. -/
theorem chunks_append (front back : List Lexeme) :
    chunks (front ++ semicolon :: back) = chunks front ++ chunks back :=
  Separated.parts_append_cons (by decide)

/-- A chunk holds no semicolon, and it has the same lexemes when it stands alone. -/
theorem scan_chunk (scanned : scan script = .ok lexemes) (member : chunk ∈ chunks lexemes) :
    scan (chunk.flatMap Lexeme.text) = .ok chunk ∧ semicolon ∉ chunk := by
  obtain ⟨stretch, plain⟩ := Separated.stretch_of_mem_parts member
  obtain ⟨fits, _⟩ := scan_eq_ok_iff.mp scanned
  exact ⟨scan_of_fits (fits.of_infix stretch), fun inside => by simpa using plain _ inside⟩

/-- A script with a token and without semicolons is a statement between white space. -/
theorem isStatement_trim (scanned : scan script = .ok lexemes) (single : semicolon ∉ lexemes)
    (token : lexemes.any isToken = true) : IsStatement script.trim := by
  -- White space at the ends neither counts nor cuts the script.
  obtain ⟨fewer, trimmed, same⟩ := exists_scan_trim scanned
  have single : semicolon ∉ fewer := by
    rwa [← semicolon_mem_filter, same, semicolon_mem_filter]
  have token : fewer.any isToken = true := by
    rwa [← any_isToken_filter, same, any_isToken_filter]
  obtain ⟨_, text⟩ := scan_eq_ok_iff.mp trimmed
  refine statements_eq_ok_iff.mpr ⟨fewer, trimmed, ?_⟩
  simp [chunks_eq_singleton single, statement?, token, ← text]

/-- A statement of a script is the only statement of itself. -/
theorem isStatement_of_mem (split : statements script = .ok found) {statement : Text}
    (member : statement ∈ found) : IsStatement statement := by
  -- The chunk of the statement has no semicolon, and is scanned alone to the same lexemes.
  obtain ⟨lexemes, scanned, rfl⟩ := statements_eq_ok_iff.mp split
  obtain ⟨chunk, inside, given⟩ := List.mem_filterMap.mp member
  obtain ⟨alone, single⟩ := scan_chunk scanned inside
  rw [statement?] at given
  split at given
  · rename_i token
    obtain rfl := Option.some.inj given
    exact isStatement_trim alone single token
  · simp at given

/-- A line feed at the end of a script is no part of its last statement. -/
theorem statements_of_chunks_line_feed (lexemes : List Lexeme) :
    (chunks (lexemes ++ [space '\n'])).filterMap statement? =
      (chunks lexemes).filterMap statement? := by
  -- The line feed belongs to the last chunk, from which it is trimmed.
  obtain ⟨earlier, last, parts⟩ := Separated.exists_last_part (· == semicolon) lexemes
  have before := parts [] (by simp)
  have behind := parts [space '\n'] (by simp)
  have trimmed : statement? (last ++ [space '\n']) = statement? last := by
    have same : Text.trim ([] ++ (last.flatMap Lexeme.text ++ ['\n'])) =
        Text.trim (last.flatMap Lexeme.text) := Text.trim_between_blanks rfl (by decide) _
    simp [statement?, isToken, Lexeme.text, ← same]
  rw [List.append_nil, List.append_nil] at before
  rw [chunks, chunks, before, behind, List.filterMap_append, List.filterMap_append]
  simp [List.filterMap_cons, trimmed]

/-- The cut in front of a script is a line feed and a semicolon. -/
theorem scan_cut_append (second : Text) :
    scan (cut ++ second) = (scan second).map ([space '\n', semicolon] ++ ·) := by
  -- Neither of them goes on in what follows it.
  have feed : isSpace '\n' = true := by decide
  have ends : scan (';' :: second) = (scan second).map (semicolon :: ·) :=
    scan_text_append .semicolon
  rw [cut, List.cons_append, List.cons_append, List.nil_append, scan_cons_space feed, ends]
  cases scan second <;> simp [Except.map]

/-- Behind a cut the statements of a script follow that are those of what stands there. -/
theorem statements_append (split : statements first = .ok found) :
    ((∃ error, statements (first ++ cut ++ second) = .error error) ↔
        ∃ error, statements second = .error error) ∧
      ∀ more, statements second = .ok more →
        statements (first ++ cut ++ second) = .ok (found ++ more) := by
  -- The line feed ends what could go on, and the semicolon ends the last chunk.
  obtain ⟨lexemes, scanned, rfl⟩ := statements_eq_ok_iff.mp split
  have both : scan (first ++ cut ++ second) =
      (scan second).map (lexemes ++ [space '\n', semicolon] ++ ·) := by
    rw [List.append_assoc, scan_append scanned rfl, scan_cut_append]
    cases scan second <;> simp [Except.map]
  refine ⟨?_, fun more later => ?_⟩
  · rw [statements_eq_error_iff, statements_eq_error_iff, both]
    cases scan second <;> simp [Except.map]
  · obtain ⟨others, rest, rfl⟩ := statements_eq_ok_iff.mp later
    refine statements_eq_ok_iff.mpr ⟨_, by rw [both, rest]; rfl, ?_⟩
    have apart : chunks (lexemes ++ [space '\n', semicolon] ++ others) =
        chunks (lexemes ++ [space '\n']) ++ chunks others := by
      rw [← chunks_append]
      simp
    rw [apart, List.filterMap_append, statements_of_chunks_line_feed]

/-- Statements that are joined by cuts are the statements of what they are joined to. -/
theorem statements_join (singles : ∀ statement ∈ list, IsStatement statement) :
    statements (Text.join cut list) = .ok list := by
  -- The first statement stands in front of a cut, and the others follow it.
  induction list with
  | nil => exact statements_nil
  | cons first later ih =>
    rw [List.forall_mem_cons] at singles
    cases later with
    | nil => exact singles.1
    | cons second rest => exact (statements_append singles.1).2 _ (ih singles.2)

/-- Where one script ends and another one goes on behind a cut, the whole has the statements of both
and fails exactly when the second one fails. A statement that a script holds is the one statement of
itself, so that statements can be joined by cuts and come apart again. -/
theorem statements_homomorphic :
    (∀ first found, statements first = .ok found → ∀ second,
      ((∃ error, statements (first ++ cut ++ second) = .error error) ↔
        ∃ error, statements second = .error error) ∧
      ∀ more, statements second = .ok more →
        statements (first ++ cut ++ second) = .ok (found ++ more)) ∧
    (∀ script found, statements script = .ok found → ∀ statement ∈ found, IsStatement statement) ∧
    ∀ list, (∀ statement ∈ list, IsStatement statement) →
      statements (Text.join cut list) = .ok list :=
  ⟨fun _ _ split _ => statements_append split, fun _ _ split _ => isStatement_of_mem split,
    fun _ => statements_join⟩

/-- A line comment at the end of a script ends in front of the cut, and the quote of the other
script does not reach back to it. -/
theorem statements_homomorphic_comment :
    statements "a -- ;".toList = .ok ["a -- ;".toList] ∧
      statements "';' b ; /* ; */".toList = .ok ["';' b".toList] ∧
      statements "a -- ;\n;';' b ; /* ; */".toList = .ok ["a -- ;".toList, "';' b".toList] := by
  have first : statements "a -- ;".toList = .ok ["a -- ;".toList] := by cbv
  have second : statements "';' b ; /* ; */".toList = .ok ["';' b".toList] := by cbv
  exact ⟨first, second, (statements_homomorphic.1 _ _ first _).2 _ second⟩

end Script

end Ddl
