import Ddl.Plan
import Ddl.Proofs.LineEnds.Script
import Ddl.Proofs.Text.Utf8
import Ddl.Script.File

/-! It does not matter how the lines of a script end: neither for its statements, nor for a plan
that is made of them, nor for the tables of a file that it is written to. -/

namespace Ddl

open Text (crlf crlf_cons cr)

namespace Text

variable {text : Text}

/-- A character that is no carriage return is kept. -/
theorem unifyLineEnds_cons {char : Char} (other : char ≠ '\r') (rest : Text) :
    unifyLineEnds (char :: rest) = char :: unifyLineEnds rest := by
  -- The two other cases of the definition begin with a carriage return.
  rw [unifyLineEnds]
  · rintro later rfl rfl
    exact other rfl
  · exact other

/-- A text without carriage returns has nothing that is to be unified. -/
theorem unifyLineEnds_of_plain (plain : '\r' ∉ text) : unifyLineEnds text = text := by
  -- Each character is kept, and so is the rest.
  induction text with
  | nil => rfl
  | cons char rest ih =>
    rw [List.mem_cons, not_or] at plain
    rw [unifyLineEnds_cons (Ne.symm plain.1), ih plain.2]

/-- The carriage returns that were put in front of line feeds are taken away again. -/
theorem unifyLineEnds_crlf (plain : '\r' ∉ text) : unifyLineEnds (crlf text) = text := by
  -- A line feed comes back from its pair, and other characters are not changed.
  induction text with
  | nil => rfl
  | cons char rest ih =>
    rw [List.mem_cons, not_or] at plain
    by_cases feed : char = '\n'
    · subst feed
      rw [crlf_line_feed, unifyLineEnds, ih plain.2]
    · rw [crlf_cons feed, unifyLineEnds_cons (Ne.symm plain.1), ih plain.2]

/-- With carriage returns in place of line feeds there is no line feed. -/
theorem line_feed_notMem_cr (text : Text) : '\n' ∉ cr text := by
  -- A character is made from a line feed or is another one, and is no line feed in both cases.
  rw [cr, List.mem_map, not_exists]
  rintro char ⟨-, made⟩
  split at made
  · exact absurd made (by decide)
  · rename_i other
    exact other made

/-- Carriage returns that were put in place of line feeds become line feeds again. -/
theorem unifyLineEnds_cr (plain : '\r' ∉ text) : unifyLineEnds (cr text) = text := by
  induction text with
  | nil => rfl
  | cons char rest ih =>
    rw [List.mem_cons, not_or] at plain
    by_cases feed : char = '\n'
    · subst feed
      have single : ∀ later, cr rest = '\n' :: later → False := fun later begins =>
        line_feed_notMem_cr rest (begins ▸ List.mem_cons_self)
      -- No line feed stands behind the carriage return, so it ends the line alone.
      rw [cr, List.map_cons, if_pos rfl, ← cr, unifyLineEnds.eq_3 _ single, ih plain.2]
    · rw [cr, List.map_cons, if_neg feed, ← cr, unifyLineEnds_cons (Ne.symm plain.1), ih plain.2]

end Text

namespace Plan

variable {statements : List Text}

/-- The statements that give no table, each with its fault. -/
def faulty (statements : List Text) : List (Text × ItemFault) :=
  statements.filterMap fun statement =>
    match table none statement with
    | .ok _ => none
    | .error fault => some (statement, fault)

/-- The outcome for statements, and the one for the same statements with other line ends. Only the
beginnings that show which statements are faulty may be written differently. -/
inductive SameReport (statements : List Text) :
    Except PlanError Plan → Except PlanError Plan → Prop
  | planned (plan : Plan) : SameReport statements (.ok plan) (.ok plan)
  | dependency (error : DependencyError) :
    SameReport statements (.error (.dependency error)) (.error (.dependency error))
  | items : SameReport statements
      (.error (.items ((faulty statements).map fun (statement, fault) =>
        ⟨preview statement, fault⟩)))
      (.error (.items ((faulty statements).map fun (statement, fault) =>
        ⟨preview (crlf statement), fault⟩)))

/-- A statement gives the same table, or the same fault. -/
theorem table_crlf (statement : Text) : table none (crlf statement) = table none statement := by
  rw [table, table, Table.ofStatement_crlf]

/-- A report is made for each faulty statement, with its preview. -/
theorem itemErrors_eq (statements : List Text) : statements.filterMap (itemError? none) =
    (faulty statements).map fun (statement, fault) => ⟨preview statement, fault⟩ := by
  -- A statement is faulty just when a report is made for it.
  rw [faulty, List.map_filterMap]
  congr 1
  funext statement
  rw [itemError?]
  cases table none statement <;> rfl

/-- The same statements are faulty, with the same faults, and are shown as they are written. -/
theorem itemErrors_crlf (statements : List Text) :
    (statements.map crlf).filterMap (itemError? none) =
      (faulty statements).map fun (statement, fault) => ⟨preview (crlf statement), fault⟩ := by
  -- What is read of a statement does not depend on how its lines end, but its preview does.
  rw [faulty, List.filterMap_map, List.map_filterMap]
  congr 1
  funext statement
  rw [Function.comp, itemError?, table_crlf]
  cases table none statement <;> rfl

/-- The statements give the same tables. -/
theorem tables_crlf (statements : List Text) :
    (statements.map crlf).filterMap (table? none) = statements.filterMap (table? none) := by
  -- Each of them gives the same table or none.
  rw [List.filterMap_map]
  congr 1
  funext statement
  rw [Function.comp, table?, table?, table_crlf]

/-- The statements give the same plan, or reports on the same ones. -/
theorem ofStatements_crlf (statements : List Text) :
    SameReport statements (ofStatements none statements)
      (ofStatements none (statements.map crlf)) := by
  rw [ofStatements, ofStatements, itemErrors_eq, itemErrors_crlf, tables_crlf]
  simp only [List.map_eq_nil_iff]
  split
  · -- No statement is faulty, and the tables are the same.
    cases ofTables (statements.filterMap (table? none)) with
    | ok plan => exact .planned plan
    | error error => exact .dependency error
  · exact .items

end Plan

namespace File

/-- The tables of a file are those of its text, with line feeds at the ends of its lines. -/
theorem tables_encode (path text : Text) :
    tables ⟨path, some (Utf8.encode text)⟩ = tablesOfText text.unifyLineEnds := by
  simp only [tables, File.text, Utf8.decode_encode]
  rfl

end File

variable {script : Text}

/-- A script whose lines end with both characters is cut at the same places, and each of its
statements gives the same table. Together the statements give the same plan, or the same report. A
file gives the same tables in each of the three ways to end a line. -/
theorem lineEnds_equivalent (plain : '\r' ∉ script) :
    ((∃ error, Script.statements (crlf script) = .error error) ↔
        ∃ error, Script.statements script = .error error) ∧
      (∀ found, Script.statements script = .ok found →
        Script.statements (crlf script) = .ok (found.map crlf)) ∧
      (∀ statement, Table.ofStatement (crlf statement) = Table.ofStatement statement) ∧
      (∀ statements, Plan.SameReport statements (Plan.ofStatements none statements)
        (Plan.ofStatements none (statements.map crlf))) ∧
      ∀ path, File.tables ⟨path, some (Utf8.encode (crlf script))⟩ =
          File.tables ⟨path, some (Utf8.encode script)⟩ ∧
        File.tables ⟨path, some (Utf8.encode (cr script))⟩ =
          File.tables ⟨path, some (Utf8.encode script)⟩ := by
  -- All three files have the same text when they are read.
  obtain ⟨fails, splits⟩ := Script.statements_crlf script
  refine ⟨fails, splits, Table.ofStatement_crlf, Plan.ofStatements_crlf, fun path => ?_⟩
  simp only [File.tables_encode, Text.unifyLineEnds_of_plain plain, Text.unifyLineEnds_crlf plain,
    Text.unifyLineEnds_cr plain, and_self]

/-- Line ends in a comment and in a literal, and a semicolon in each of them. -/
theorem lineEnds_equivalent_literal :
    '\r' ∉ "CREATE TABLE t (a INT -- ;\n DEFAULT ';\n');\n--".toList ∧
      Script.statements (crlf "CREATE TABLE t (a INT -- ;\n DEFAULT ';\n');\n--".toList) =
        .ok [crlf "CREATE TABLE t (a INT -- ;\n DEFAULT ';\n')".toList] ∧
      (File.tables ⟨"t.sql".toList, some (Utf8.encode
          (cr "CREATE TABLE t (a INT -- ;\n DEFAULT ';\n');\n--".toList))⟩).toOption =
        some [⟨"t".toList, [⟨"a".toList, "INT".toList, true, false, false, some ";".toList, none⟩],
          []⟩] := by
  have plain : '\r' ∉ "CREATE TABLE t (a INT -- ;\n DEFAULT ';\n');\n--".toList := by decide
  have split : Script.statements "CREATE TABLE t (a INT -- ;\n DEFAULT ';\n');\n--".toList =
    .ok ["CREATE TABLE t (a INT -- ;\n DEFAULT ';\n')".toList] := by cbv
  obtain ⟨-, splits, -, -, files⟩ := lineEnds_equivalent plain
  refine ⟨plain, splits _ split, ?_⟩
  rw [(files _).2, File.tables_encode, Text.unifyLineEnds_of_plain plain, File.tablesOfText, split]
  decide +kernel

end Ddl
