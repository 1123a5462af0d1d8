import Ddl.Proofs.Pattern.Described
import Ddl.Script.File
import Mathlib

/-! No statement of a file that gives a table is passed over, and the first faulty one decides. -/

namespace Ddl

namespace File

open Pattern

/-- A header of a table begins with the keywords that tell a statement that creates a table. -/
theorem createTable_matches {text : Text} (header : TableHeader.pattern.Matches text) :
    createTable.Matches text := by
  -- Behind the keywords the header goes on with white space, the name and a parenthesis.
  have opening : (keyword "CREATE" ++ spaces ++ keyword "TABLE" ++ spaces).Matches text :=
    header.left.left.left.left
  obtain ⟨before, way, space⟩ := matches_append_iff.mp opening
  exact matches_append_iff.mpr ⟨before, way, wordEnd_matches_of_spaces space⟩

/-- A statement that is passed over has no header of a table. -/
theorem ofStatement_of_passed_over {statement : Text} (other : createsTable statement = false) :
    Table.ofStatement statement = .error .missingTableName := by
  -- A header begins with the two words that are not in the statement.
  have none : TableHeader.find? (normalize statement) = none := by
    by_contra found
    have occurs : TableHeader.pattern.occursIn (normalize statement) = true := by
      rw [occursIn, ← Option.isSome_map, ← Option.ne_none_iff_isSome]
      exact found
    have creates : createsTable statement = true :=
      occursIn_of_matches (fun _ => createTable_matches) occurs
    rw [other] at creates
    cases creates
  rw [Table.ofStatement, none]
  rfl

section Collecting

variable {Item Error Value : Type} {read : Item → Except Error Value} {items : List Item}

/-- Reading items one after another succeeds when each of them is read. -/
theorem mapM_eq_ok_iff {values : List Value} :
    items.mapM read = .ok values ↔
      List.Forall₂ (fun item value => read item = .ok value) items values := by
  -- The first item is read before the others, which are read by induction.
  induction items generalizing values with
  | nil => cases values <;> simp [pure, Except.pure]
  | cons item later ih =>
    rw [List.mapM_cons]
    cases here : read item with
    | error fault => cases values <;> simp [bind, Except.bind, here]
    | ok value =>
      cases behind : later.mapM read with
      | error fault => cases values <;> simp [bind, Except.bind, here, ← ih, behind]
      | ok found =>
        cases values <;> simp [bind, Except.bind, pure, Except.pure, here, ← ih, behind]

/-- The error is that of the first item that is not read. -/
def FirstError (read : Item → Except Error Value) (items : List Item) (error : Error) : Prop :=
  ∃ before item after, items = before ++ item :: after ∧
    (∀ earlier ∈ before, ∃ value, read earlier = .ok value) ∧ read item = .error error

/-- The first item is not read, or it is read and another one behind it is not. -/
theorem firstError_cons_iff {error : Error} {item : Item} :
    FirstError read (item :: items) error ↔ read item = .error error ∨
      (∃ value, read item = .ok value) ∧ FirstError read items error := by
  -- Nothing is in front of the item that fails, or the first item is.
  constructor
  · intro first
    obtain ⟨before, other, after, split, earlier, failed⟩ := first
    cases before with
    | nil =>
      obtain ⟨rfl, -⟩ := List.cons.inj split
      exact .inl failed
    | cons _ before =>
      obtain ⟨rfl, rfl⟩ := List.cons.inj split
      obtain ⟨here, behind⟩ := List.forall_mem_cons.mp earlier
      exact .inr ⟨here, before, other, after, rfl, behind, failed⟩
  · intro cases
    rcases cases with failed | ⟨here, before, other, after, rfl, earlier, failed⟩
    · exact ⟨[], item, items, rfl, by simp, failed⟩
    · exact ⟨item :: before, other, after, rfl, List.forall_mem_cons.mpr ⟨here, earlier⟩, failed⟩

/-- Reading items one after another fails with the error of the first one that is not read. -/
theorem mapM_eq_error_iff {error : Error} :
    items.mapM read = .error error ↔ FirstError read items error := by
  induction items with
  | nil => simp [FirstError, pure, Except.pure]
  | cons item later ih =>
    rw [firstError_cons_iff, ← ih, List.mapM_cons]
    cases here : read item with
    | error fault => simp [bind, Except.bind]
    | ok value =>
      -- The value is put in front of the others only if all of these are read.
      cases behind : later.mapM read <;> simp [bind, Except.bind, pure, Except.pure]

end Collecting

variable {statements : List Text}

/-- Statements that are passed over give no table, so all tables come from the others. -/
theorem filterMap_filter_createsTable (statements : List Text) :
    (statements.filter createsTable).filterMap (fun statement =>
        (Table.ofStatement statement).toOption) =
      statements.filterMap fun statement => (Table.ofStatement statement).toOption := by
  -- A statement that is passed over would give no table.
  rw [List.filterMap_filter]
  refine List.filterMap_congr fun statement _ => ?_
  cases creates : createsTable statement with
  | true => rfl
  | false => rw [ofStatement_of_passed_over creates]; rfl

/-- The tables that are read one by one are those that are given at all. -/
theorem filterMap_of_forall {tables : List Table}
    (read : List.Forall₂ (fun statement table => Table.ofStatement statement = .ok table)
      statements tables) :
    statements.filterMap (fun statement => (Table.ofStatement statement).toOption) = tables := by
  induction read with
  | nil => rfl
  | cons given _ ih => rw [List.filterMap_cons, given, ih]; rfl

/-- The error of statements is that of the first one that is not passed over and not read. -/
theorem tablesOf_eq_error_iff {error : StatementError} :
    tablesOf statements = .error error ↔ ∃ before statement after,
      statements = before ++ statement :: after ∧
      (∀ earlier ∈ before, createsTable earlier = true →
        ∃ table, Table.ofStatement earlier = .ok table) ∧
      createsTable statement = true ∧ Table.ofStatement statement = .error error := by
  rw [tablesOf, mapM_eq_error_iff, FirstError]
  constructor
  · intro failed
    -- The statements that are kept stand among the others in the same order.
    obtain ⟨kept, statement, _, split, earlier, failed⟩ := failed
    obtain ⟨front, back, rfl, rfl, behind⟩ := List.filter_eq_append_iff.mp split
    obtain ⟨between, after, rfl, others, creates, -⟩ := List.filter_eq_cons_iff.mp behind
    refine ⟨front ++ between, statement, after, by simp, ?_, creates, failed⟩
    intro item member itself
    -- What stands between two statements that are kept is passed over.
    rcases List.mem_append.mp member with inside | inside
    · exact earlier item (List.mem_filter.mpr ⟨inside, itself⟩)
    · exact absurd itself (others item inside)
  · intro failed
    obtain ⟨before, statement, after, rfl, earlier, creates, failed⟩ := failed
    refine ⟨before.filter createsTable, statement, after.filter createsTable, ?_, ?_, failed⟩
    · rw [List.filter_append, List.filter_cons_of_pos creates]
    · intro item member
      obtain ⟨inside, itself⟩ := List.mem_filter.mp member
      exact earlier item inside itself

/-- A file whose text can be cut into statements gives what these give. -/
theorem tables_of_split {file : File} {text : Text} (readable : file.text = .ok text)
    (split : Script.statements text = .ok statements) :
    file.tables = (tablesOf statements).mapError .statement := by
  -- The file is read to its text, and the text is cut into its statements.
  have whole : file.tables = tablesOfText text := by
    rw [tables, readable]
    rfl
  rw [whole, tablesOfText, split]
  dsimp only
  cases tablesOf statements <;> rfl

/-- A statement that is passed over has no header of a table. So a file whose text can be cut into
statements gives, in their order, the tables of exactly those that are not passed over, which are
all the tables that its statements give; or it gives the error of the first statement that is not
passed over and cannot be read. -/
theorem tables_exact :
    (∀ statement, createsTable statement = false →
      Table.ofStatement statement = .error .missingTableName) ∧
    ∀ (file : File) text statements, file.text = .ok text →
      Script.statements text = .ok statements →
      (∀ found, file.tables = .ok found ↔
        List.Forall₂ (fun statement table => Table.ofStatement statement = .ok table)
          (statements.filter createsTable) found) ∧
      (∀ found, file.tables = .ok found →
        found = statements.filterMap fun statement => (Table.ofStatement statement).toOption) ∧
      ∀ error, file.tables = .error error ↔ ∃ fault, error = .statement fault ∧
        ∃ before statement after, statements = before ++ statement :: after ∧
          (∀ earlier ∈ before, createsTable earlier = true →
            ∃ table, Table.ofStatement earlier = .ok table) ∧
          createsTable statement = true ∧ Table.ofStatement statement = .error fault := by
  refine ⟨fun statement => ofStatement_of_passed_over, ?_⟩
  intro file text statements readable split
  have given := tables_of_split readable split
  have found_iff (found : List Table) : file.tables = .ok found ↔
      List.Forall₂ (fun statement table => Table.ofStatement statement = .ok table)
        (statements.filter createsTable) found := by
    rw [given, ← mapM_eq_ok_iff, ← tablesOf]
    cases tablesOf statements <;> simp [Except.mapError]
  refine ⟨found_iff, ?_, ?_⟩
  · intro found tables
    rw [← filterMap_filter_createsTable, filterMap_of_forall ((found_iff found).mp tables)]
  · intro error
    simp only [given, ← tablesOf_eq_error_iff]
    -- Only the kind of the error is added to what the statements give.
    cases tablesOf statements <;> simp [Except.mapError, eq_comm]

/-- An index is passed over, and the header of a table without its parenthesis is not. -/
theorem tables_exact_index :
    Table.ofStatement "CREATE INDEX i".toList = .error .missingTableName ∧
      tables ⟨"a".toList, some "CREATE INDEX i;CREATE TABLE a (b INT)".toUTF8.data.toList⟩ =
        .ok [⟨"a".toList, [⟨"b".toList, "INT".toList, true, false, false, none, none⟩], []⟩] ∧
      tables ⟨"b".toList, some "CREATE INDEX i;CREATE TABLE b;c".toUTF8.data.toList⟩ =
        .error (.statement .missingTableName) := by
  obtain ⟨passedOver, files⟩ := tables_exact
  have index : createsTable "CREATE INDEX i".toList = false := by decide +kernel
  -- The first file holds a table behind the index.
  obtain ⟨given, -, -⟩ := files
    ⟨"a".toList, some "CREATE INDEX i;CREATE TABLE a (b INT)".toUTF8.data.toList⟩
    "CREATE INDEX i;CREATE TABLE a (b INT)".toList
    ["CREATE INDEX i".toList, "CREATE TABLE a (b INT)".toList] (by cbv) (by cbv)
  -- The second file holds the words of a table without its header.
  obtain ⟨-, -, refused⟩ := files
    ⟨"b".toList, some "CREATE INDEX i;CREATE TABLE b;c".toUTF8.data.toList⟩
    "CREATE INDEX i;CREATE TABLE b;c".toList
    ["CREATE INDEX i".toList, "CREATE TABLE b".toList, "c".toList] (by cbv) (by cbv)
  refine ⟨passedOver _ index, (given _).mpr ?_, (refused _).mpr ?_⟩
  · have kept : ["CREATE INDEX i".toList, "CREATE TABLE a (b INT)".toList].filter createsTable =
        ["CREATE TABLE a (b INT)".toList] := by decide +kernel
    rw [kept]
    exact .cons (by decide +kernel) .nil
  · -- The index stands in front of the first statement that counts.
    refine ⟨_, rfl, ["CREATE INDEX i".toList], "CREATE TABLE b".toList, ["c".toList], rfl, ?_,
      by decide +kernel, by decide +kernel⟩
    intro earlier member creates
    obtain rfl := List.mem_singleton.mp member
    rw [index] at creates
    cases creates

end File

end Ddl
