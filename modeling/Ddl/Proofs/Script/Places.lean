import Ddl.Proofs.Script.Grammar

/-! The scan reaches places of a script, and every other place lies inside of the lexeme that begins
at the last one that was reached. A scan fails where something is opened and never closed. -/

namespace Ddl

namespace Lexeme

variable {lexeme other : Lexeme} {after behind : Text}

/-- A text begins with one lexeme at most. -/
theorem Stands.unique (stands : lexeme.Stands after) (stands' : other.Stands behind)
    (same : lexeme.text ++ after = other.text ++ behind) : lexeme = other ∧ after = behind := by
  -- Both lexemes are what is found at the place.
  obtain ⟨char, more, begins⟩ := stands.exists_cons
  have first : next char (more ++ after) = .ok (lexeme, after) :=
    next_of_stands stands (by rw [begins, List.cons_append])
  have second : next char (more ++ after) = .ok (other, behind) :=
    next_of_stands stands' (by rw [← same, begins, List.cons_append])
  simpa using first.symm.trans second

/-- A lexeme that stands somewhere is not empty. -/
theorem Stands.length_pos (stands : lexeme.Stands after) : 0 < lexeme.text.length := by
  obtain ⟨char, more, begins⟩ := stands.exists_cons
  rw [begins, List.length_cons]
  omega

end Lexeme

namespace Script

open Lexeme

/-- The scan begins a lexeme at a place of a script, or ends there. -/
inductive Reached (script : Text) : Nat → Prop
  | start : Reached script 0
  | next {place : Nat} {lexeme : Lexeme} {after : Text} (reached : Reached script place)
    (stands : lexeme.Stands after) (here : script.drop place = lexeme.text ++ after) :
    Reached script (place + lexeme.text.length)

/-- A place lies in a piece of some kind that begins where the scan begins a lexeme. -/
def Covered (Kind : Text → Text → Prop) (script : Text) (place : Nat) : Prop :=
  ∃ start piece after, Reached script start ∧ script.drop start = piece ++ after ∧
    Kind piece after ∧ start ≤ place ∧ place < start + piece.length

/-- The place lies in a comment. -/
def InComment (script : Text) (place : Nat) : Prop :=
  Covered IsComment script place

/-- The place lies in a quoted literal. -/
def InLiteral (script : Text) (place : Nat) : Prop :=
  Covered IsLiteral script place

/-- What opens a quoted literal, or a comment that can reach over several lines. -/
def marks : List Text :=
  [['"'], ['\''], ['/', '*'], ['{', '#']]

/-- A quoted literal or a comment is opened at the beginning of the text and never closed in it. -/
def Unclosed (text : Text) : Prop :=
  (∃ mark ∈ marks, mark <+: text) ∧
    ∀ piece after, text = piece ++ after → ¬IsComment piece after ∧ ¬IsLiteral piece after

variable {script : Text} {place start : Nat} {lexeme : Lexeme} {after : Text} {char : Char}

/-- Behind a lexeme stands what followed it. -/
theorem next_place (here : script.drop place = lexeme.text ++ after) :
    script.drop (place + lexeme.text.length) = after := by
  rw [← List.drop_drop, here, List.drop_left]

/-- Nothing is begun inside of a lexeme. -/
theorem Reached.apart (reached : Reached script place) (begun : Reached script start)
    (stands : lexeme.Stands after) (here : script.drop start = lexeme.text ++ after) :
    place ≤ start ∨ start + lexeme.text.length ≤ place := by
  -- One step back on one side swaps the roles of the two places, and their sum gets less.
  induction sum : place + start using Nat.strongRecOn generalizing place start lexeme after with
  | _ _ ih =>
    cases reached with
    | start => exact .inl (Nat.zero_le _)
    | @next earlier before rest reached stands' here' =>
      have positive := stands'.length_pos
      rcases Nat.lt_trichotomy earlier start with less | same | more
      · -- The earlier lexeme ends where the later one begins or in front of it.
        have := ih (start + earlier) (by omega) begun reached stands' here' rfl
        omega
      · subst earlier
        obtain ⟨rfl, rfl⟩ := stands.unique stands' (here.symm.trans here')
        exact .inr (Nat.le_refl _)
      · have := ih (earlier + start) (by omega) reached begun stands here rfl
        omega

/-- A scan fails when it fails on what stands behind a place that it reaches. -/
theorem Reached.scan_fails_iff (reached : Reached script place) :
    (∃ fault, scan (script.drop place) = .error fault) ↔ ∃ fault, scan script = .error fault := by
  -- A lexeme that was found does not make the scan fail.
  induction reached with
  | start => rfl
  | next reached stands here ih =>
    rw [← ih, next_place here, here, scan_text_append stands]
    cases scan _ <;> simp [Except.map]

/-- The scan goes on behind lexemes that fit. -/
theorem Reached.append {front back : List Lexeme} (reached : Reached script place)
    (fits : Fits (front ++ back))
    (here : script.drop place = (front ++ back).flatMap Lexeme.text) :
    Reached script (place + (front.flatMap Lexeme.text).length) := by
  -- The place moves on by one lexeme after another.
  induction front generalizing place with
  | nil => exact reached
  | cons lexeme front ih =>
    rw [List.cons_append, List.flatMap_cons] at here
    have behind := ih (.next reached fits.1 here) fits.2 (next_place here)
    rwa [Nat.add_assoc, ← List.length_append, ← List.flatMap_cons] at behind

/-- A mark does not begin with white space. -/
theorem solid_of_mem_marks {mark : Text} (member : mark ∈ marks) :
    ∃ char more, mark = char :: more ∧ isSpace char = false := by
  simp only [marks, List.mem_cons, List.not_mem_nil, or_false] at member
  rcases member with rfl | rfl | rfl | rfl <;> exact ⟨_, _, rfl, by decide⟩

/-- A scan can only fail where a mark stands. -/
theorem exists_mark_of_next {rest : Text} {fault : ScanFault}
    (failed : Lexeme.next char rest = .error fault) : ∃ mark ∈ marks, mark <+: char :: rest := by
  -- Only the cases of comments and quotes can fail, and each of them begins with a mark.
  unfold Lexeme.next at failed
  split at failed
  case h_4 => exact ⟨['/', '*'], by simp [marks], by simp⟩
  case h_5 => exact ⟨['/', '*'], by simp [marks], by simp⟩
  case h_6 => exact ⟨['{', '#'], by simp [marks], by simp⟩
  case h_9 => exact ⟨['"'], by simp [marks], by simp⟩
  case h_10 => exact ⟨['\''], by simp [marks], by simp⟩
  case h_11 => split at failed <;> simp at failed
  all_goals simp at failed

/-- What stands at a mark is a comment or a quoted literal. -/
theorem kind_of_mark (stands : lexeme.Stands after) {mark : Text} (member : mark ∈ marks)
    (here : mark <+: lexeme.text ++ after) :
    IsComment lexeme.text after ∨ IsLiteral lexeme.text after := by
  -- The other kinds of lexemes begin with none of the marks.
  cases stands with
  | comment isComment => exact .inl isComment
  | literal isLiteral => exact .inr isLiteral
  -- Marks begin with characters that are not white space.
  | space blank =>
    obtain ⟨first, more, rfl, solid⟩ := solid_of_mem_marks member
    obtain ⟨rest, same⟩ := here
    obtain ⟨rfl, _⟩ : first = _ ∧ more ++ rest = _ := by simpa [text] using same
    simp [blank] at solid
  | semicolon =>
    simp only [marks, List.mem_cons, List.not_mem_nil, or_false] at member
    rcases member with rfl | rfl | rfl | rfl <;> simp [text] at here
  | marker among =>
    simp only [marks, markers, List.mem_cons, List.not_mem_nil, or_false] at member among
    rcases member with rfl | rfl | rfl | rfl <;> rcases among with rfl | rfl | rfl <;>
      simp [text] at here
  -- Every mark is an opening, and another token begins with none of them.
  | other solid plain =>
    have known : ∀ mark ∈ marks, mark ∈ openings := by decide
    exact absurd here (plain mark (known mark member))

/-- The scan fails at a place when what is opened there is never closed. -/
theorem next_fails_iff {rest : Text} :
    (∃ fault, Lexeme.next char rest = .error fault) ↔ Unclosed (char :: rest) := by
  constructor
  · rintro ⟨fault, failed⟩
    refine ⟨exists_mark_of_next failed, fun piece after same => ⟨fun found => ?_, fun found => ?_⟩⟩
    · simp [next_of_stands (.comment found) same] at failed
    · simp [next_of_stands (.literal found) same] at failed
  · rintro ⟨⟨mark, member, begins⟩, open_⟩
    cases found : Lexeme.next char rest with
    | error fault => exact ⟨fault, rfl⟩
    | ok result =>
      -- What is found at a mark would close it.
      obtain ⟨lexeme, after⟩ := result
      have stands := stands_of_next found
      obtain ⟨more, begin, rfl⟩ := text_of_next found
      have same : char :: (more ++ after) = lexeme.text ++ after := by rw [begin, List.cons_append]
      rcases kind_of_mark stands member (same ▸ begins) with isComment | isLiteral
      · exact absurd isComment (open_ _ _ same).1
      · exact absurd isLiteral (open_ _ _ same).2

/-- The scan fails when it reaches a place where what is opened is never closed. -/
theorem scan_fails_iff : (∃ fault, scan script = .error fault) ↔
    ∃ place, Reached script place ∧ Unclosed (script.drop place) := by
  constructor
  · -- The scan goes on from one place to the next, until it finds no lexeme.
    have general : ∀ text place, Reached script place → script.drop place = text →
        (∃ fault, scan text = .error fault) →
        ∃ place, Reached script place ∧ Unclosed (script.drop place) := by
      intro text
      induction text using scan.induct with
      | case1 => simp
      | case2 char rest fault found =>
        intro place reached here _
        exact ⟨place, reached, here ▸ next_fails_iff.mp ⟨fault, found⟩⟩
      | case3 char rest lexeme after found ih =>
        intro place reached here failed
        have stands := stands_of_next found
        obtain ⟨more, begins, rfl⟩ := text_of_next found
        have same : script.drop place = lexeme.text ++ after := by
          rw [here, begins, List.cons_append]
        refine ih _ (.next reached stands same) (next_place same) ?_
        rw [← here, same, scan_text_append stands] at failed
        -- The fault comes from the text behind the lexeme.
        revert failed
        cases scan after <;> simp [Except.map]
    exact general script 0 .start rfl
  · rintro ⟨place, reached, unclosed⟩
    -- The scan comes to the place and fails there.
    rw [← reached.scan_fails_iff]
    cases here : script.drop place with
    | nil => simp [here, Unclosed, marks] at unclosed
    | cons char rest =>
      obtain ⟨fault, failed⟩ := next_fails_iff.mpr (here ▸ unclosed)
      exact ⟨fault, by rw [scan_cons, failed]⟩

end Script

end Ddl
