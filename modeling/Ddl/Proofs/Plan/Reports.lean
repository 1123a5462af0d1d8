import Ddl.Plan
import Mathlib.Data.List.Forall2

/-! Every faulty statement of a batch is reported once, in order, with what it is refused for when
it stands alone. -/

namespace Ddl

namespace Plan

variable {limit? : Option Int} {statement : Text} {statements : List Text}

/-- The statement is longer than a limit that is set. -/
def Exceeds (limit? : Option Int) (statement : Text) : Prop :=
  ∃ limit, limit? = some limit ∧ limit < statement.length

/-- The statement is too long, or no table can be read from it. -/
def Fails (limit? : Option Int) (statement : Text) : Prop :=
  Exceeds limit? statement ∨ ∃ error, Table.ofStatement statement = .error error

/-- What is said about a statement that is given alone. -/
inductive Complaint (limit? : Option Int) (statement : Text) : Text → Prop
  /-- A statement that is too long is refused with its length and the limit. -/
  | tooLarge {limit : Int} (given : limit? = some limit) (long : limit < statement.length) :
    Complaint limit? statement
      ("DDL is too large: ".toList ++ Text.ofNat statement.length ++
        " characters (limit ".toList ++ Text.ofInt limit ++ [')'])
  /-- Any other statement is refused with the message of its reading. -/
  | unread {error : StatementError} (short : ¬Exceeds limit? statement)
    (failed : Table.ofStatement statement = .error error) :
    Complaint limit? statement error.message

/-- The report shows the beginning of the statement and says what is wrong with it alone. -/
structure Reports (limit? : Option Int) (statement : Text) (report : ItemError) : Prop where
  /-- The beginning is followed by dots. -/
  preview : report.preview = statement.take 100 ++ ['.', '.', '.']
  /-- The other statements of the batch do not count. -/
  message : Complaint limit? statement report.fault.message

/-- The reports of a batch, of which there are none when no statement is faulty. -/
def reports (limit? : Option Int) (statements : List Text) : List ItemError :=
  match ofStatements limit? statements with
  | .error (.items errors) => errors
  | _ => []

/-- Lengths are compared to decide whether a statement is too long. -/
instance (limit? : Option Int) (statement : Text) : Decidable (Exceeds limit? statement) :=
  match limit? with
  | none => isFalse fun exceeds => by simp [Exceeds] at exceeds
  | some limit => decidable_of_iff (limit < statement.length) (by simp [Exceeds])

/-- A statement is read to decide whether it fails. -/
instance (limit? : Option Int) (statement : Text) : Decidable (Fails limit? statement) :=
  match read : Table.ofStatement statement with
  | .ok table => decidable_of_iff (Exceeds limit? statement) (by simp [Fails, read])
  | .error error => isTrue (Or.inr ⟨error, read⟩)

/-- A statement about which something is said fails. -/
theorem Complaint.fails {message : Text} (complaint : Complaint limit? statement message) :
    Fails limit? statement := by
  cases complaint with
  | tooLarge given long => exact Or.inl ⟨_, given, long⟩
  | unread short failed => exact Or.inr ⟨_, failed⟩

/-- A statement gives its table when it keeps to the limit and can be read. -/
theorem table_eq_ok_iff {table : Table} :
    Plan.table limit? statement = .ok table ↔
      ¬Exceeds limit? statement ∧ Table.ofStatement statement = .ok table := by
  unfold Plan.table Exceeds
  cases limit? with
  -- Without a limit only the reading counts.
  | none => cases read : Table.ofStatement statement <;> simp [Except.mapError]
  | some limit =>
    -- The length is checked before the statement is read.
    by_cases long : limit < statement.length
    · simp [long]
    · cases read : Table.ofStatement statement <;> simp [long, Except.mapError]

/-- A statement is refused for its length, or else for what is said on reading it. -/
theorem complaint_of_table {fault : ItemFault}
    (refused : Plan.table limit? statement = .error fault) :
    Complaint limit? statement fault.message := by
  unfold Plan.table at refused
  -- Without a limit no statement is too long.
  cases limit? with
  | none =>
    cases read : Table.ofStatement statement with
    | ok table => simp [read, Except.mapError] at refused
    | error error =>
      simp only [read, Except.mapError, Except.error.injEq] at refused
      subst fault
      exact .unread (by simp [Exceeds]) read
  | some limit =>
    -- A statement that is too long is not read at all.
    by_cases long : limit < statement.length
    · simp only [long, if_true, Except.error.injEq] at refused
      subst fault
      exact .tooLarge rfl long
    · cases read : Table.ofStatement statement with
      | ok table => simp [long, read, Except.mapError] at refused
      | error error =>
        simp only [long, if_false, read, Except.mapError, Except.error.injEq] at refused
        subst fault
        exact .unread (by simpa [Exceeds] using long) read

/-- A statement gives no table exactly when it fails. -/
theorem table_eq_error_iff :
    (∃ fault, Plan.table limit? statement = .error fault) ↔ Fails limit? statement := by
  -- A statement with a table is neither too long nor faulty, and others are one of both.
  rw [Fails]
  cases given : Plan.table limit? statement with
  | ok table =>
    obtain ⟨short, read⟩ := table_eq_ok_iff.mp given
    simp [short, read]
  | error fault =>
    have fails := (complaint_of_table given).fails
    rw [Fails] at fails
    simp [fails]

/-- The statements that fail are those that are reported, one by one. -/
theorem forall_reports (limit? : Option Int) (statements : List Text) :
    List.Forall₂ (Reports limit?) (statements.filter fun statement => Fails limit? statement)
      (statements.filterMap (itemError? limit?)) := by
  induction statements with
  | nil => exact .nil
  | cons statement later ih =>
    cases given : Plan.table limit? statement with
    -- A statement with a table is in neither list.
    | ok table =>
      have passes : ¬Fails limit? statement := by simp [← table_eq_error_iff, given]
      simpa [passes, itemError?, given] using ih
    -- Any other statement is the first in both lists.
    | error fault =>
      have fails : Fails limit? statement := table_eq_error_iff.mp ⟨fault, given⟩
      have report : itemError? limit? statement = some ⟨preview statement, fault⟩ := by
        rw [itemError?, given]
      rw [List.filter_cons_of_pos (by simpa using fails), List.filterMap_cons_some report]
      exact .cons ⟨rfl, complaint_of_table given⟩ ih

/-- No statement is reported exactly when none fails. -/
theorem filterMap_itemError?_eq_nil_iff :
    statements.filterMap (itemError? limit?) = [] ↔
      ∀ statement ∈ statements, ¬Fails limit? statement := by
  have lengths := (forall_reports limit? statements).length_eq
  rw [← List.length_eq_zero_iff, ← lengths, List.length_eq_zero_iff, List.filter_eq_nil_iff]
  simp

/-- The reports come from the statements one by one. -/
theorem reports_eq (limit? : Option Int) (statements : List Text) :
    reports limit? statements = statements.filterMap (itemError? limit?) := by
  unfold reports ofStatements
  dsimp only
  -- A batch without reports can still have no order, which is no report of a statement.
  by_cases none : statements.filterMap (itemError? limit?) = []
  · rw [if_pos none, none]
    cases ofTables (statements.filterMap (table? limit?)) <;> simp [Except.mapError]
  · rw [if_neg none]

/-- A batch is refused for its statements exactly when one of them fails. -/
theorem ofStatements_eq_items_iff {errors : List ItemError} :
    ofStatements limit? statements = .error (.items errors) ↔
      (∃ statement ∈ statements, Fails limit? statement) ∧
        errors = statements.filterMap (itemError? limit?) := by
  -- Statements fail just when there are reports, and then the tables do not matter.
  have some_fails : (∃ statement ∈ statements, Fails limit? statement) ↔
      ¬statements.filterMap (itemError? limit?) = [] := by
    rw [filterMap_itemError?_eq_nil_iff]
    push Not
    rfl
  rw [some_fails]
  unfold ofStatements
  dsimp only
  by_cases none : statements.filterMap (itemError? limit?) = []
  · rw [if_pos none]
    cases ofTables (statements.filterMap (table? limit?)) <;> simp [Except.mapError, none]
  · rw [if_neg none]
    simp [none, eq_comm]

/-- Other outcomes need that all statements can be read, and then depend on their tables alone. -/
theorem ofStatements_of_forall {tables : List Table}
    (read : List.Forall₂ (fun statement table => Plan.table limit? statement = .ok table)
      statements tables) :
    ofStatements limit? statements = (ofTables tables).mapError .dependency := by
  -- Nothing is reported, and the tables that are read are the given ones.
  have all : statements.filterMap (itemError? limit?) = [] ∧
      statements.filterMap (table? limit?) = tables := by
    induction read with
    | nil => exact ⟨rfl, rfl⟩
    | cons given _ ih =>
      constructor
      · rw [List.filterMap_cons_none (by rw [itemError?, given]), ih.1]
      · rw [List.filterMap_cons_some (by rw [table?, given]; rfl), ih.2]
  unfold ofStatements
  dsimp only
  rw [if_pos all.1, all.2]

/-- Where no statement fails, each of them gives a table. -/
theorem exists_tables (passes : ∀ statement ∈ statements, ¬Fails limit? statement) :
    ∃ tables, List.Forall₂ (fun statement table => Plan.table limit? statement = .ok table)
      statements tables := by
  -- The statements are read one after another.
  induction statements with
  | nil => exact ⟨[], .nil⟩
  | cons statement later ih =>
    rw [List.forall_mem_cons] at passes
    obtain ⟨tables, read⟩ := ih passes.2
    cases given : Plan.table limit? statement with
    | ok table => exact ⟨table :: tables, .cons given read⟩
    | error fault => exact absurd (table_eq_error_iff.mp ⟨fault, given⟩) passes.1

/-- A batch is refused for its statements exactly when one of them is too long or cannot be read.
Each such statement is then reported once, in input order, by its beginning and by what is said
about it alone, so the reports of two batches together are those of the one and then those of the
other. Whether the tables have an order is only asked when all statements can be read. -/
theorem ofStatements_reports_exact (limit? : Option Int) (statements : List Text) :
    ((∃ errors, ofStatements limit? statements = .error (.items errors)) ↔
        ∃ statement ∈ statements, Fails limit? statement) ∧
      List.Forall₂ (Reports limit?) (statements.filter fun statement => Fails limit? statement)
        (reports limit? statements) ∧
      (∀ more, reports limit? (statements ++ more) =
        reports limit? statements ++ reports limit? more) ∧
      ∀ error, ofStatements limit? statements = .error (.dependency error) →
        ∀ statement ∈ statements, ∃ table, Table.ofStatement statement = .ok table := by
  refine ⟨?_, ?_, ?_, ?_⟩
  · simp only [ofStatements_eq_items_iff, exists_and_left, exists_eq, and_true]
  · rw [reports_eq]
    exact forall_reports limit? statements
  · intro more
    rw [reports_eq, reports_eq, reports_eq, List.filterMap_append]
  · intro error raised statement member
    -- A statement that fails would have been reported in place of the tables.
    have passes : ¬Fails limit? statement := by
      intro fails
      have refused := ofStatements_eq_items_iff.mpr ⟨⟨statement, member, fails⟩, rfl⟩
      rw [refused] at raised
      simp at raised
    cases read : Table.ofStatement statement with
    | ok table => exact ⟨table, rfl⟩
    | error error => exact absurd (Or.inr ⟨error, read⟩) passes

end Plan

end Ddl
