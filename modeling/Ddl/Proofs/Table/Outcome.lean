import Ddl.Proofs.Grammar.Clauses
import Ddl.Proofs.Grammar.Header
import Ddl.Proofs.Table.Block
import Ddl.Proofs.Table.Clauses

/-! A statement gives a table unless it has no header, no block or a faulty clause, and of these
the first one is reported. -/

namespace Ddl

open Text Grammar

namespace TableBody

variable {clause : Text}

/-- A clause is faulty when it begins like a foreign key clause and holds no foreign key. -/
theorem isFaulty_iff : IsFaulty clause ↔ (∃ opening : KeyOpening, opening.text <+: clause) ∧
    ∀ key : KeyText, ¬key.text <:+: clause := by
  rw [IsFaulty, opens_iff, ← Option.not_isSome_iff_eq_none, isSome_foreignKey?_iff, not_exists]

end TableBody

namespace Table

open TableBody

/-- What a statement gives, by the first thing in it that is missing or faulty. -/
inductive Outcome (statement : Text) : Except StatementError Table → Prop
  | noHeader (missing : TableHeader.find? (normalize statement) = none) :
    Outcome statement (.error .missingTableName)
  | noBlock {header : TableHeader}
    (searched : TableHeader.find? (normalize statement) = some header)
    (missing : block? (normalize statement) header.start = none) :
    Outcome statement (.error .missingColumnBlock)
  | faulty {header : TableHeader} {block clause : Text}
    (searched : TableHeader.find? (normalize statement) = some header)
    (given : block? (normalize statement) header.start = some block)
    (first : FirstFaulty (clausesOf block) clause) :
    Outcome statement (.error (.invalidConstraint clause))
  /-- Nothing is missing, and no clause is faulty. -/
  | table {header : TableHeader} {block : Text}
    (searched : TableHeader.find? (normalize statement) = some header)
    (given : block? (normalize statement) header.start = some block)
    (sound : ∀ clause ∈ clausesOf block, ¬IsFaulty clause) :
    Outcome statement (.ok ⟨header.name, (clausesOf block).filterMap columnOf?,
      (clausesOf block).filterMap keyOf?⟩)

variable {statement : Text} {result : Except StatementError Table} {found : TableHeader}

/-- With a header and a block, the clauses of the block decide. -/
theorem ofStatement_of_block {block : Text}
    (searched : TableHeader.find? (normalize statement) = some found)
    (given : block? (normalize statement) found.start = some block) :
    ofStatement statement = (ofClauses (clausesOf block)).map
      fun body => ⟨found.name, body.columns, body.foreignKeys⟩ := by
  have clauses : ofClauses (clausesOf block) = ofBlock block := rfl
  simp only [ofStatement, searched, Option.elim_some, bind, Except.bind, given, clauses]
  cases ofBlock block <;> rfl

/-- An outcome of a statement is what comes of it. -/
theorem Outcome.ofStatement_eq (outcome : Outcome statement result) :
    ofStatement statement = result := by
  -- The reading goes on up to the step that decides.
  cases outcome with
  | noHeader missing =>
    simp only [ofStatement, missing]
    rfl
  | noBlock searched missing =>
    simp only [ofStatement, searched, Option.elim_some, bind, Except.bind, missing]
    rfl
  | faulty searched given first =>
    rw [ofStatement_of_block searched given, ofClauses_of_firstFaulty first]
    rfl
  | table searched given sound =>
    rw [ofStatement_of_block searched given, ofClauses_of_sound sound]
    rfl

/-- Each statement has an outcome. -/
theorem exists_outcome (statement : Text) : ∃ result, Outcome statement result := by
  cases searched : TableHeader.find? (normalize statement) with
  | none => exact ⟨_, .noHeader searched⟩
  | some header =>
    cases given : block? (normalize statement) header.start with
    | none => exact ⟨_, .noBlock searched given⟩
    | some block =>
      -- The clauses of the block are all sound, or one is the first faulty one.
      rcases sound_or_exists_firstFaulty (clausesOf block) with sound | ⟨clause, first⟩
      · exact ⟨_, .table searched given sound⟩
      · exact ⟨_, .faulty searched given first⟩

/-- What comes of a statement is its outcome. -/
theorem ofStatement_eq_iff : ofStatement statement = result ↔ Outcome statement result := by
  constructor
  · intro same
    -- There is some outcome, and it is what the statement gives.
    obtain ⟨other, outcome⟩ := exists_outcome statement
    rwa [← same, outcome.ofStatement_eq]
  · exact Outcome.ofStatement_eq

/-- A statement has no name when it has no header. -/
theorem ofStatement_eq_missingTableName_iff : ofStatement statement = .error .missingTableName ↔
    TableHeader.find? (normalize statement) = none := by
  rw [ofStatement_eq_iff]
  constructor
  · intro outcome
    -- No other outcome is reported as this one.
    cases outcome with
    | noHeader missing => exact missing
  · exact .noHeader

/-- A statement with a header has no block when no parenthesis closes far enough behind it. -/
theorem ofStatement_eq_missingColumnBlock_iff
    (searched : TableHeader.find? (normalize statement) = some found) :
    ofStatement statement = .error .missingColumnBlock ↔
      ∀ closing, LastAt (normalize statement) ')' closing → closing < found.start + 2 := by
  -- The header ends with the parenthesis that would open the block.
  rw [ofStatement_eq_iff, ← block?_start_eq_none_iff (TableHeader.opens_of_find? searched)]
  constructor
  · intro outcome
    cases outcome with
    | noBlock again missing =>
      obtain rfl := Option.some.inj (again.symm.trans searched)
      exact missing
  · exact .noBlock searched

/-- A statement with a block is refused for its first faulty clause. -/
theorem ofStatement_eq_invalidConstraint_iff {block clause : Text}
    (searched : TableHeader.find? (normalize statement) = some found)
    (given : block? (normalize statement) found.start = some block) :
    ofStatement statement = .error (.invalidConstraint clause) ↔
      FirstFaulty (clausesOf block) clause := by
  rw [ofStatement_eq_iff]
  constructor
  · intro outcome
    cases outcome with
    | faulty again givenAgain first =>
      -- The header and the block are the ones that were found before.
      obtain rfl := Option.some.inj (again.symm.trans searched)
      obtain rfl := Option.some.inj (givenAgain.symm.trans given)
      exact first
  · exact .faulty searched given

/-- A statement with a block is accepted when none of its clauses is faulty. -/
theorem exists_ofStatement_eq_ok_iff {block : Text}
    (searched : TableHeader.find? (normalize statement) = some found)
    (given : block? (normalize statement) found.start = some block) :
    (∃ table, ofStatement statement = .ok table) ↔
      ∀ clause ∈ clausesOf block, ¬IsFaulty clause := by
  -- Header and block are the ones that are given, and only their clauses are left.
  constructor
  · intro accepted
    obtain ⟨table, accepted⟩ := accepted
    cases ofStatement_eq_iff.mp accepted with
    | table again givenAgain sound =>
      obtain rfl := Option.some.inj (again.symm.trans searched)
      obtain rfl := Option.some.inj (givenAgain.symm.trans given)
      exact sound
  · intro sound
    exact ⟨_, (Outcome.table searched given sound).ofStatement_eq⟩

/-- A block reaches from the first parenthesis that opens from the start on to the last one that
closes, if there is a character between them, and else there is no block. A statement without any
header has no name. With the header that is found, it has no block when the last parenthesis that
closes is not at least two places behind the header's own, and else the first faulty clause of the
block is reported, or a table is given when there is none. -/
theorem ofStatement_faults :
    (∀ text start block, block? text start = some block ↔ ∃ opening closing,
      FirstAt text '(' start opening ∧ LastAt text ')' closing ∧ opening + 2 ≤ closing ∧
        block = between text opening closing) ∧
    (∀ text start, block? text start = none ↔ ¬∃ opening closing,
      FirstAt text '(' start opening ∧ LastAt text ')' closing ∧ opening + 2 ≤ closing) ∧
    (∀ clause, IsFaulty clause ↔ (∃ opening : KeyOpening, opening.text <+: clause) ∧
      ∀ key : KeyText, ¬key.text <:+: clause) ∧
    ∀ statement,
      (ofStatement statement = .error .missingTableName ↔
        ∀ place, ∀ header : Header, ¬header.text <+: (normalize statement).drop place) ∧
      (ofStatement statement ≠ .error .missingTableName →
        ∃ found, TableHeader.find? (normalize statement) = some found) ∧
      ∀ found, TableHeader.find? (normalize statement) = some found →
        (ofStatement statement = .error .missingColumnBlock ↔ ¬∃ closing,
          LastAt (normalize statement) ')' closing ∧ found.start + 2 ≤ closing) ∧
        ∀ closing, LastAt (normalize statement) ')' closing → found.start + 2 ≤ closing →
          (∀ clause, ofStatement statement = .error (.invalidConstraint clause) ↔
            FirstFaulty (clausesOf (between (normalize statement) found.start closing)) clause) ∧
          ((∃ table, ofStatement statement = .ok table) ↔
            ∀ clause ∈ clausesOf (between (normalize statement) found.start closing),
              ¬IsFaulty clause) := by
  refine ⟨fun text start block => block?_eq_some_iff, fun text start => ?_,
    fun clause => isFaulty_iff, fun statement => ⟨?_, ?_, fun found searched => ⟨?_, ?_⟩⟩⟩
  · rw [block?_eq_none_iff]
    simp only [not_exists, not_and, Nat.not_le]
  · rw [ofStatement_eq_missingTableName_iff, TableHeader.find?_eq_none_iff]
  · rw [Ne, ofStatement_eq_missingTableName_iff]
    exact Option.ne_none_iff_exists'.mp
  · rw [ofStatement_eq_missingColumnBlock_iff searched]
    simp only [not_exists, not_and, Nat.not_le]
  · -- With room for a character the header's parenthesis opens a block.
    intro closing last room
    have given := block?_start (TableHeader.opens_of_find? searched) last room
    exact ⟨fun clause => ofStatement_eq_invalidConstraint_iff searched given,
      exists_ofStatement_eq_ok_iff searched given⟩

/-- A statement with two faulty clauses, of which the first one is reported. -/
def twoFaults : Text :=
  "CREATE TABLE t (a INT, CONSTRAINT c FOREIGN KEY b, CONSTRAINT d FOREIGN KEY)".toList

/-- The first of two faulty clauses is the one that is told. -/
theorem ofStatement_faults_two : TableHeader.find? (normalize twoFaults) = some ⟨"t".toList, 15⟩ ∧
    LastAt (normalize twoFaults) ')' 75 ∧
      ofStatement twoFaults = .error (.invalidConstraint "CONSTRAINT c FOREIGN KEY b".toList) := by
  have searched : TableHeader.find? (normalize twoFaults) = some ⟨"t".toList, 15⟩ := by
    decide +kernel
  have length : (normalize twoFaults).length = 76 := by decide +kernel
  have last : LastAt (normalize twoFaults) ')' 75 := by
    refine ⟨by decide +kernel, fun later behind => ?_⟩
    -- Behind the last parenthesis the statement has ended.
    rw [List.getElem?_eq_none (by omega)]
    simp
  have first : FirstFaulty (clausesOf (between (normalize twoFaults) 15 75))
      "CONSTRAINT c FOREIGN KEY b".toList := by
    refine ⟨by decide +kernel, ["a INT".toList], ["CONSTRAINT d FOREIGN KEY".toList], ?_, ?_⟩
    · decide +kernel
    · decide +kernel
  have outcome := (ofStatement_faults.2.2.2 twoFaults).2.2 _ searched
  exact ⟨searched, last, ((outcome.2 75 last (by decide)).1 _).mpr first⟩

end Table

end Ddl
