import Ddl.Proofs.CommaList.Parts
import Ddl.Table.Statement

/-! The clauses of a block are read one by one and in order, and the first faulty clause is the one
that is reported. -/

namespace Ddl

/-- The foreign key that the reference of a column gives. -/
def Column.foreignKey? (column : Column) : Option ForeignKey :=
  column.references?.map fun target => ⟨column.name, target⟩

/-- A list is put together from two others, each of which keeps its order. -/
inductive Interleaved {Item : Type} : List Item → List Item → List Item → Prop
  | nil : Interleaved [] [] []
  | left {item : Item} {first second whole : List Item} (later : Interleaved first second whole) :
    Interleaved (item :: first) second (item :: whole)
  | right {item : Item} {first second whole : List Item} (later : Interleaved first second whole) :
    Interleaved first (item :: second) (item :: whole)

/-- The first list stands in the whole in the same order. -/
theorem Interleaved.sublist {Item : Type} {first second whole : List Item}
    (interleaved : Interleaved first second whole) : first.Sublist whole := by
  -- An item comes from the first list or is left out.
  induction interleaved with
  | nil => exact .slnil
  | left _ ih => exact ih.cons_cons _
  | right _ ih => exact ih.cons _

namespace TableBody

variable {clauses : List Text} {clause block : Text} {body : TableBody} {fault : StatementError}

/-- The clause has to be read as a foreign key, but it says no columns that are joined. -/
def IsFaulty (clause : Text) : Prop :=
  ForeignKeyClause.opens clause = true ∧ ForeignKeyClause.foreignKey? clause = none

/-- A clause is faulty when it opens a constraint and has no key, which can be looked up. -/
instance (clause : Text) : Decidable (IsFaulty clause) :=
  inferInstanceAs (Decidable (_ ∧ _))

/-- The column that a clause gives. -/
def columnOf? (clause : Text) : Option Column :=
  if ForeignKeyClause.opens clause then none else ColumnClause.column? clause

/-- The foreign key that a clause gives, by itself or by the reference of its column. -/
def keyOf? (clause : Text) : Option ForeignKey :=
  if ForeignKeyClause.opens clause then ForeignKeyClause.foreignKey? clause
  else (ColumnClause.column? clause).bind Column.foreignKey?

/-- The clauses of a block, without the white space around them. -/
def clausesOf (block : Text) : List Text :=
  (CommaList.split block).map Text.trim

/-- A clause is faulty or gives at most one column and at most one foreign key. -/
theorem ofClause_eq (clause : Text) : ofClause clause =
    if IsFaulty clause then .error (.invalidConstraint clause)
    else .ok ⟨(columnOf? clause).toList, (keyOf? clause).toList⟩ := by
  rw [ofClause, columnOf?, keyOf?]
  by_cases opens : ForeignKeyClause.opens clause = true
  · -- A foreign key clause gives its key and no column, or it is faulty.
    rw [if_pos opens, if_pos opens, if_pos opens]
    cases key : ForeignKeyClause.foreignKey? clause with
    | none => rw [if_pos ⟨opens, key⟩]
    | some found =>
      rw [if_neg fun faulty => by cases key.symm.trans faulty.2]
      rfl
  · -- Any other clause cannot be faulty, whether it gives a column or not.
    rw [if_neg opens, if_neg opens, if_neg opens, if_neg fun faulty => opens faulty.1]
    cases ColumnClause.column? clause <;> rfl

/-- Clauses of two lists give the bodies of both. -/
theorem ofClauses_append (first second : List Text) : ofClauses (first ++ second) = (do
    let front ← ofClauses first
    let back ← ofClauses second
    return front.append back) := by
  induction first with
  | nil =>
    -- An empty body in front of another one adds nothing to it.
    cases given : ofClauses second <;>
      simp [ofClauses, given, append, bind, Except.bind, pure, Except.pure]
  | cons clause first ih =>
    -- Whichever of the three readings fails first, both sides report its fault.
    rw [List.cons_append, ofClauses, ih, ofClauses]
    cases ofClause clause <;> cases ofClauses first <;> cases ofClauses second <;>
      simp [append, bind, Except.bind, pure, Except.pure]

/-- Clauses give no column exactly when none of them gives one. -/
theorem ofClauses_eq_keys_iff : (∃ keys, ofClauses clauses = .ok ⟨[], keys⟩) ↔
    ∀ clause ∈ clauses, ∃ keys, ofClause clause = .ok ⟨[], keys⟩ := by
  induction clauses with
  | nil => simp [ofClauses]
  | cons clause later ih =>
    rw [List.forall_mem_cons, ← ih, ofClauses]
    -- A fault of the clause or behind it leaves nothing that could be without columns.
    cases ofClause clause with
    | error fault => simp [bind, Except.bind]
    | ok first =>
      cases ofClauses later with
      | error fault => simp [bind, Except.bind]
      | ok others =>
        obtain ⟨columns, keys⟩ := first
        obtain ⟨moreColumns, moreKeys⟩ := others
        simp [append, bind, Except.bind, pure, Except.pure]

/-- Clauses of which none is faulty give their columns and foreign keys in order. -/
theorem ofClauses_of_sound (sound : ∀ clause ∈ clauses, ¬IsFaulty clause) :
    ofClauses clauses = .ok ⟨clauses.filterMap columnOf?, clauses.filterMap keyOf?⟩ := by
  induction clauses with
  | nil => rfl
  | cons clause later ih =>
    rw [List.forall_mem_cons] at sound
    rw [ofClauses, ofClause_eq, if_neg sound.1, ih sound.2]
    -- Each clause has nothing or one thing to put in front.
    cases column : columnOf? clause <;> cases key : keyOf? clause <;>
      simp [column, key, append, bind, Except.bind, pure, Except.pure]

/-- What comes behind the first faulty clause does not matter. -/
theorem ofClauses_of_faulty {earlier : List Text} (later : List Text)
    (sound : ∀ other ∈ earlier, ¬IsFaulty other) (faulty : IsFaulty clause) :
    ofClauses (earlier ++ clause :: later) = .error (.invalidConstraint clause) := by
  -- The clauses in front of it are all read, and reading stops at the clause itself.
  rw [ofClauses_append, ofClauses_of_sound sound, ofClauses, ofClause_eq, if_pos faulty]
  rfl

/-- The clause is the first faulty one. -/
structure FirstFaulty (clauses : List Text) (clause : Text) : Prop where
  isFaulty : IsFaulty clause
  /-- The clauses in front of it are not faulty. -/
  isFirst : ∃ earlier later, clauses = earlier ++ clause :: later ∧
    ∀ other ∈ earlier, ¬IsFaulty other

/-- No clause is faulty, or one is the first. -/
theorem sound_or_exists_firstFaulty (clauses : List Text) :
    (∀ clause ∈ clauses, ¬IsFaulty clause) ∨ ∃ clause, FirstFaulty clauses clause := by
  induction clauses with
  | nil => exact .inl (by simp)
  | cons clause later ih =>
    by_cases faulty : IsFaulty clause
    · exact .inr ⟨clause, faulty, [], later, rfl, by simp⟩
    · -- A clause that is not faulty leaves the question to those behind it.
      rcases ih with sound | ⟨other, isFaulty, earlier, others, rfl, isFirst⟩
      · exact .inl (List.forall_mem_cons.mpr ⟨faulty, sound⟩)
      · exact .inr ⟨other, isFaulty, clause :: earlier, others, rfl,
          List.forall_mem_cons.mpr ⟨faulty, isFirst⟩⟩

/-- Clauses are refused for the first faulty one. -/
theorem ofClauses_of_firstFaulty (first : FirstFaulty clauses clause) :
    ofClauses clauses = .error (.invalidConstraint clause) := by
  obtain ⟨isFaulty, earlier, later, rfl, sound⟩ := first
  exact ofClauses_of_faulty later sound isFaulty

/-- Clauses are accepted when none is faulty, and give all their columns and keys. -/
theorem ofClauses_eq_ok_iff : ofClauses clauses = .ok body ↔
    (∀ clause ∈ clauses, ¬IsFaulty clause) ∧
      body = ⟨clauses.filterMap columnOf?, clauses.filterMap keyOf?⟩ := by
  rcases sound_or_exists_firstFaulty clauses with sound | ⟨clause, first⟩
  · rw [ofClauses_of_sound sound, Except.ok.injEq]
    exact ⟨fun same => ⟨sound, same.symm⟩, fun given => given.2.symm⟩
  · rw [ofClauses_of_firstFaulty first]
    constructor
    · intro given
      cases given
    · -- A list in which one clause is faulty is not sound.
      intro given
      obtain ⟨isFaulty, earlier, later, rfl, -⟩ := first
      exact absurd isFaulty (given.1 clause (by simp))

/-- Clauses are only refused for the first faulty one. -/
theorem ofClauses_eq_error_iff : ofClauses clauses = .error fault ↔
    ∃ clause, FirstFaulty clauses clause ∧ fault = .invalidConstraint clause := by
  -- Either no clause is faulty or there is a first one.
  constructor
  · intro failed
    rcases sound_or_exists_firstFaulty clauses with sound | ⟨clause, first⟩
    · rw [ofClauses_of_sound sound] at failed
      cases failed
    · rw [ofClauses_of_firstFaulty first, Except.error.injEq] at failed
      exact ⟨clause, first, failed.symm⟩
  · intro given
    obtain ⟨clause, first, rfl⟩ := given
    exact ofClauses_of_firstFaulty first

/-- A blank clause gives nothing. -/
theorem ofClause_nil : ofClause [] = .ok ⟨[], []⟩ := by
  decide +kernel

/-- The blank part that splitting leaves out would have given nothing. -/
theorem ofBlock_eq (block : Text) :
    ofBlock block = ofClauses ((CommaList.parts block).map Text.trim) := by
  have whole := (List.dropLast_concat_getLast (CommaList.parts_ne_nil block)).symm
  generalize (CommaList.parts block).dropLast = earlier,
    (CommaList.parts block).getLast _ = last at whole
  rw [ofBlock, CommaList.split_eq_of_parts whole, whole]
  cases blank : last.isBlank with
  -- A last part that is visible is among the clauses in any case.
  | false => rfl
  | true =>
    -- Trimmed, a blank part is the empty clause.
    have nothing : ofClauses [[]] = .ok ⟨[], []⟩ := by
      rw [ofClauses, ofClause_nil]
      rfl
    rw [if_pos rfl, List.map_append, List.map_singleton, Text.trim_eq_nil blank, ofClauses_append,
      nothing]
    cases ofClauses (earlier.map Text.trim) <;> simp [append, bind, Except.bind, pure, Except.pure]

/-- A comma behind as many closed as opened parentheses separates two blocks. -/
theorem ofBlock_append {first : Text} (level : first.count '(' = first.count ')') (second : Text) :
    ofBlock (first ++ ',' :: second) = (do
      let front ← ofBlock first
      let back ← ofBlock second
      return front.append back) := by
  have rise : CommaList.rise first = 0 := by
    rw [CommaList.rise_eq_count, level, Int.sub_self]
  -- All parts are counted, blank ones too, so those of the whole are those of both halves.
  rw [ofBlock_eq, ofBlock_eq, ofBlock_eq, CommaList.parts_append_comma_of_rise rise,
    List.map_append, ofClauses_append]

/-- The foreign keys of clauses are those of the columns and those that stand by themselves. -/
theorem interleaved_keyOf? (sound : ∀ clause ∈ clauses, ¬IsFaulty clause) : ∃ keys,
    (clauses.filter ForeignKeyClause.opens).map ForeignKeyClause.foreignKey? = keys.map some ∧
      Interleaved ((clauses.filterMap columnOf?).filterMap Column.foreignKey?) keys
        (clauses.filterMap keyOf?) := by
  -- The first clause is of one kind, and adds to one of the two lists or to neither.
  induction clauses with
  | nil => exact ⟨[], rfl, .nil⟩
  | cons clause later ih =>
    rw [List.forall_mem_cons] at sound
    obtain ⟨keys, given, interleaved⟩ := ih sound.2
    by_cases opens : ForeignKeyClause.opens clause = true
    · -- The key of a foreign key clause stands by itself.
      obtain ⟨key, found⟩ : ∃ key, ForeignKeyClause.foreignKey? clause = some key :=
        Option.ne_none_iff_exists'.mp fun none => sound.1 ⟨opens, none⟩
      refine ⟨key :: keys, ?_, ?_⟩
      · simp [opens, found, given]
      · simpa [columnOf?, keyOf?, opens, found] using interleaved.right
    · refine ⟨keys, by simpa [opens] using given, ?_⟩
      cases column : ColumnClause.column? clause with
      | none => simpa [columnOf?, keyOf?, opens, column] using interleaved
      | some found =>
        -- A column has a key of its own if it has a reference.
        cases key : found.foreignKey? with
        | none => simpa [columnOf?, keyOf?, opens, column, key] using interleaved
        | some key => simpa [columnOf?, keyOf?, opens, column, key] using interleaved.left

/-- Blocks on both sides of a separating comma are read independently of each other, the first one
before the second one, and nothing but a faulty clause keeps a block from being read. What is read
are the columns and the foreign keys of the clauses in order: the keys of the columns that have
references, and among them those of the foreign key clauses. -/
theorem ofBlock_in_order :
    (∀ first second : Text, first.count '(' = first.count ')' →
      (∀ fault, ofBlock first = .error fault → ofBlock (first ++ ',' :: second) = .error fault) ∧
      (∀ front fault, ofBlock first = .ok front → ofBlock second = .error fault →
        ofBlock (first ++ ',' :: second) = .error fault) ∧
      ∀ front back, ofBlock first = .ok front → ofBlock second = .ok back →
        ofBlock (first ++ ',' :: second) =
          .ok ⟨front.columns ++ back.columns, front.foreignKeys ++ back.foreignKeys⟩) ∧
    (∀ block fault, ofBlock block = .error fault → ∃ clause ∈ clausesOf block,
      fault = .invalidConstraint clause) ∧
    ∀ block body, ofBlock block = .ok body →
      body.columns = (clausesOf block).filterMap columnOf? ∧
      body.foreignKeys = (clausesOf block).filterMap keyOf? ∧
      (body.columns.filterMap Column.foreignKey?).Sublist body.foreignKeys ∧
      ∃ keys, ((clausesOf block).filter ForeignKeyClause.opens).map ForeignKeyClause.foreignKey? =
          keys.map some ∧
        Interleaved (body.columns.filterMap Column.foreignKey?) keys body.foreignKeys := by
  refine ⟨fun first second level => ?_, fun block fault failed => ?_, fun block body read => ?_⟩
  · -- The second block is read only if the first one has been.
    rw [ofBlock_append level]
    refine ⟨fun fault failed => ?_, fun front fault read failed => ?_,
      fun front back read more => ?_⟩
    · rw [failed]
      rfl
    · rw [read, failed]
      rfl
    · rw [read, more]
      rfl
  · obtain ⟨clause, ⟨-, earlier, later, whole, -⟩, rfl⟩ := ofClauses_eq_error_iff.mp failed
    have whole : clausesOf block = earlier ++ clause :: later := whole
    exact ⟨clause, by simp [whole], rfl⟩
  · obtain ⟨sound, rfl⟩ := ofClauses_eq_ok_iff.mp read
    obtain ⟨keys, given, interleaved⟩ := interleaved_keyOf? sound
    exact ⟨rfl, rfl, interleaved.sublist, keys, given, interleaved⟩

/-- A foreign key clause with a parenthesis too many comes behind a column with a reference and a
blank part. -/
theorem ofBlock_in_order_blank :
    "a INT REFERENCES u(k), ".toList.count '(' = "a INT REFERENCES u(k), ".toList.count ')' ∧
      ofBlock "a INT REFERENCES u(k), , CONSTRAINT c FOREIGN KEY (b) REFERENCES v(m))".toList =
        .ok ⟨[⟨"a".toList, "INT".toList, true, false, false, none,
          some ⟨"u".toList, "k".toList⟩⟩],
          [⟨"a".toList, "u".toList, "k".toList⟩, ⟨"b".toList, "v".toList, "m".toList⟩]⟩ := by
  -- The comma that separates stands behind the first half, where all parentheses are closed.
  have level :
      "a INT REFERENCES u(k), ".toList.count '(' = "a INT REFERENCES u(k), ".toList.count ')' := by
    decide +kernel
  have front : ofBlock "a INT REFERENCES u(k), ".toList =
      .ok ⟨[⟨"a".toList, "INT".toList, true, false, false, none,
        some ⟨"u".toList, "k".toList⟩⟩], [⟨"a".toList, "u".toList, "k".toList⟩]⟩ := by
    decide +kernel
  have back : ofBlock " CONSTRAINT c FOREIGN KEY (b) REFERENCES v(m))".toList =
      .ok ⟨[], [⟨"b".toList, "v".toList, "m".toList⟩]⟩ := by
    decide +kernel
  exact ⟨level, (ofBlock_in_order.1 _ _ level).2.2 _ _ front back⟩

end TableBody

end Ddl
