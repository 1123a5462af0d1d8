import Ddl.Proofs.Table.Block
import Ddl.Proofs.Written.Clauses

/-! A written statement is read as the table that it describes. -/

namespace Ddl

namespace Written

open Pattern

variable (statement : Statement)

/-- Parentheses, commas and semicolons can stand behind every token. -/
theorem sound_mark {mark : Char} {space : Text} (isMark : mark ∈ ['(', ')', ',', ';'])
    (blank : space.isBlank = true) : Piece.Sound ⟨space, [mark]⟩ := by
  -- The marks are plain characters.
  have plain : isPlain mark = true := by
    have listed : ['(', ')', ',', ';'].contains mark = true := by simpa using isMark
    rw [isPlain, listed, Bool.or_true]
  exact IsPlain.sound ⟨by simp, by simpa using plain⟩ blank

/-- All pieces of the header can stand behind each other. -/
theorem Statement.header_sound : ∀ piece ∈ statement.header, piece.Sound := by
  -- The keywords in front of the name are there or left out.
  have table := statement.table.isPlain.sound statement.tableGap.blank
  rw [Statement.header, List.forall_mem_cons]
  refine ⟨table, ?_⟩
  cases statement.ifNotExists? with
  | none =>
    simp only [List.forall_mem_cons]
    exact ⟨statement.name.isPlain.sound statement.gap.blank, by simp⟩
  | some keywords =>
    simp only [IfNotExists.pieces, List.forall_mem_append, List.forall_mem_cons]
    exact ⟨⟨keywords.ifWord.isPlain.sound statement.gap.blank,
      keywords.notWord.isPlain.sound keywords.notGap.blank,
      keywords.existsWord.isPlain.sound keywords.existsGap.blank, by simp⟩,
      statement.name.isPlain.sound keywords.gap.blank, by simp⟩

/-- All pieces of the body can stand behind each other. -/
theorem Statement.body_sound : ∀ piece ∈ statement.body, piece.Sound := by
  rw [Statement.body, List.forall_mem_append]
  -- The first clause stands behind the padding, and each later one behind its comma.
  constructor
  · intro piece member
    exact (statement.first.inClause statement.padding.blank piece member).toSound
  · intro piece member
    obtain ⟨next, -, member⟩ := List.mem_flatMap.mp member
    obtain rfl | member := List.mem_cons.mp member
    · exact sound_mark (by simp) next.before.blank
    · exact (next.clause.inClause next.after.blank piece member).toSound

/-- All pieces behind the body can stand behind each other. -/
theorem Statement.ending_sound : ∀ piece ∈ statement.ending, piece.Sound := by
  -- There is a semicolon or nothing.
  rw [Statement.ending]
  cases statement.semicolon? with
  | none => simp
  | some padding => simpa using sound_mark (by simp) padding.blank

/-- All pieces of a statement can stand behind each other. -/
theorem Statement.sound : ∀ piece ∈ statement.pieces, piece.Sound := by
  simp only [Statement.pieces, List.forall_mem_append, List.forall_mem_cons]
  exact ⟨statement.header_sound, sound_mark (by simp) statement.opening.blank,
    statement.body_sound, sound_mark (by simp) statement.closing.blank, statement.ending_sound⟩

/-- The text up to the parenthesis that opens, in normal form. -/
def Statement.front : Text :=
  statement.create.text ++ (spell (statement.header.map Piece.single) ++
    oneSpace statement.opening.text)

/-- The text between the parentheses, in normal form. -/
def Statement.block : Text :=
  Written.block statement.padding.text statement.first statement.later statement.closing

/-- The normal form of a statement has its header, its block and its ending with single spaces. -/
theorem Statement.normalize_text : normalize statement.text =
    statement.front ++ '(' :: (statement.block ++
      ')' :: spell (statement.ending.map Piece.single)) := by
  rw [Statement.text, normalize_spell statement.create.isPlain.token statement.sound]
  simp [Statement.pieces, Statement.front, Statement.block, Written.block, Statement.body,
    Piece.single]

/-- A name before a parenthesis does not begin the keywords that may stand before a name. -/
theorem firstMatch?_if_name (quoted : QuotedName) (padding : Padding) (rest : Text)
    (next : Pattern) (accept : Match → Option Match) :
    (keyword "IF" ++ (spaces ++ (keyword "NOT" ++ next))).firstMatch?
      (quoted.text ++ (oneSpace padding.text ++ '(' :: rest)) accept = none := by
  -- The name might spell the first keyword, and then white space and the second one have to follow.
  rw [firstMatch?_keyword]
  split
  · rename_i found
    have apart : (keyword "NOT").Avoids .space :=
      avoids_keyword rfl (by decide) fun _ => isWord_of_isSpace
    have avoids := apart.append next
    rw [spaces, firstMatch?_longest avoids]
    split
    · rename_i space
      have solid := quoted.solid
      -- The keyword is the whole name, and what follows white space is the parenthesis.
      generalize quoted.text = word at found space solid ⊢
      rcases word with _ | ⟨first, _ | ⟨second, _ | ⟨third, later⟩⟩⟩
      · exact absurd rfl solid.present
      · -- A single letter and what follows it do not spell the keyword.
        rw [oneSpace] at found
        split at found <;> simp +decide at found
      · have opening : isSpace '(' = false := by decide
        have outside : Outside .space ('(' :: rest) := opening
        have stop : (([first, second] ++ (oneSpace padding.text ++ '(' :: rest)).drop
            "IF".length).dropWhile (CharClass.holds .space) = '(' :: rest :=
          dropWhile_oneSpace padding.text outside
        rw [stop, firstMatch?_keyword, if_neg]
        simp +decide
      · -- A longer name goes on where white space would have to stand.
        have spaceless := solid.spaceless third (by simp)
        have here : isSpace third = true := space
        simp [spaceless] at here
    · rfl
  · rfl

/-- The header is read where it is written. -/
theorem find?_front (rest : Text) : TableHeader.find? (statement.front ++ '(' :: rest) =
    some ⟨statement.name.name.text, statement.front.length⟩ := by
  obtain ⟨stop, opening⟩ :=
    firstMatch?_written_opening statement.name statement.opening empty rest some
  -- The header is one sequence of words, so that each of them is passed by itself.
  have header : ∀ text, TableHeader.pattern.matchStart? text =
      (keyword "CREATE" ++ (spaces ++ (keyword "TABLE" ++ (spaces ++
        (Pattern.optional (keyword "IF" ++ spaces ++ keyword "NOT" ++ spaces ++ keyword "EXISTS" ++
          spaces) ++ (identifier ++ (someSpaces ++ (char '(' ++ empty)))))))).matchStart? text := by
    intro text
    rw [matchStart?, ← firstMatch?_append_empty]
    simp only [TableHeader.pattern, firstMatch?_assoc, matchStart?]
  have matched : TableHeader.pattern.matchStart? (statement.front ++ '(' :: rest) =
      some ⟨[⟨statement.name.name.text ++ stop, stop⟩], rest⟩ := by
    rw [header]
    -- The keywords before the name are tried first, and fail where the name itself stands.
    cases given : statement.ifNotExists? with
    | none =>
      have written : statement.front ++ '(' :: rest = statement.create.text ++
          ' ' :: (statement.table.text ++ ' ' :: (statement.name.text ++
            (oneSpace statement.opening.text ++ '(' :: rest))) := by
        simp [Statement.front, Statement.header, given, Piece.single]
      rw [written, matchStart?,
        firstMatch?_written_keyword_spaces _ (statement.table.solid.head _),
        firstMatch?_written_keyword_spaces _ (statement.name.solid.head _), firstMatch?_optional]
      simp only [firstMatch?_assoc, firstMatch?_if_name, opening, Option.none_or]
      rw [firstMatch?_char_cons, firstMatch?]
    | some keywords =>
      have written : statement.front ++ '(' :: rest = statement.create.text ++
          ' ' :: (statement.table.text ++ ' ' :: (keywords.ifWord.text ++
            ' ' :: (keywords.notWord.text ++ ' ' :: (keywords.existsWord.text ++
              ' ' :: (statement.name.text ++
                (oneSpace statement.opening.text ++ '(' :: rest)))))) := by
        simp [Statement.front, Statement.header, given, IfNotExists.pieces, Piece.single]
      rw [written, matchStart?,
        firstMatch?_written_keyword_spaces _ (statement.table.solid.head _),
        firstMatch?_written_keyword_spaces _ (keywords.ifWord.solid.head _), firstMatch?_optional]
      simp only [firstMatch?_assoc]
      rw [firstMatch?_written_keyword_spaces _ (keywords.notWord.solid.head _),
        firstMatch?_written_keyword_spaces _ (keywords.existsWord.solid.head _),
        firstMatch?_written_keyword_spaces _ (statement.name.solid.head _),
        opening, firstMatch?_char_cons, firstMatch?, Option.some_or]
  -- The name is the first group, and its place is counted from the end.
  rw [TableHeader.find?, search?_of_matchStart? matched]
  simp [Match.groupText]
  omega

/-- A written statement is read as the table that it describes, when its columns are unambiguous. -/
theorem ofStatement_written
    (clear : ∀ clause, .column clause ∈ statement.clauses → clause.Unambiguous) :
    Table.ofStatement statement.text = .ok statement.described := by
  have present : statement.block ≠ [] := by
    have first := statement.first.tight_normal.ne_nil
    rw [Statement.block]
    -- The first clause alone is not empty.
    cases statement.later with
    | nil => simp [block_nil, first]
    | cons next later => simp [block_cons]
  -- After the block there is at most a semicolon.
  have last : ')' ∉ spell (statement.ending.map Piece.single) := by
    rw [Statement.ending]
    cases statement.semicolon? with
    | none => simp
    | some padding => simp [Piece.single, oneSpace]
  -- Between the parentheses stand the clauses, in the order in which they are described.
  have split := map_trim_split statement.padding statement.first statement.later statement.closing
  have body : TableBody.ofBlock statement.block = .ok
      ⟨statement.described.columns, statement.described.foreignKeys⟩ := by
    rw [TableBody.ofBlock, Statement.block, split]
    exact ofClauses_normal statement.clauses clear
  -- The header ends where the block begins, and the block is read clause by clause.
  simp only [Table.ofStatement, statement.normalize_text, find?_front, Option.elim_some, bind,
    Except.bind, TableBody.block?_append present last, body]
  rfl

/-- A table with one column, whose name begins like an option. -/
def uniqueId : Statement where
  create := .of "CREATE"
  tableGap := .of " "
  table := .of "TABLE"
  gap := .of " "
  ifNotExists? := none
  name := ⟨.of "t", .none⟩
  opening := .of " "
  padding := .of ""
  first := .column {
    name := ⟨.of "unique_id", .none⟩
    gap := .of " "
    type := ⟨.of "INT", none⟩
    options := []
    once := .nil }
  later := []
  closing := .of ""
  semicolon? := none

/-- A column whose name has a keyword in it is read with the option. -/
theorem ofStatement_ne_described_uniqueId :
    uniqueId.text = "CREATE TABLE t (unique_id INT)".toList ∧
      Table.ofStatement uniqueId.text ≠ .ok uniqueId.described := by
  decide +kernel

/-- A statement with every kind of option, in mixed case and with white space of all kinds. -/
def orders : Statement where
  create := .of "create"
  tableGap := .of "  "
  table := .of "Table"
  gap := .of " "
  ifNotExists? := some {
    ifWord := .of "If"
    notGap := .of " "
    notWord := .of "NOT"
    existsGap := .of "\t"
    existsWord := .of "exists"
    gap := .of " " }
  name := ⟨.of "orders", .double⟩
  opening := .of ""
  padding := .of "\n"
  first := .column {
    name := ⟨.of "id", .single⟩
    gap := .of " "
    type := ⟨.of "BIGINT", none⟩
    options := [
      (.of " ", .primaryKey (.of "Primary") (.of "\n") (.of "key")),
      (.of " ", .default (.of "DEFAULT") (.of " ") {
        text := "f(1,2)".toList
        token := ⟨.of_any (by decide) (by decide), by decide, by decide⟩
        enclosed := by decide })]
    once := by decide }
  later := [
    ⟨.of "", .of "\n\t", .column {
      name := ⟨.of "user_id", .none⟩
      gap := .of "\t "
      type := ⟨.of "NUMERIC", some {
        text := "10,2".toList
        token := ⟨.of_any (by decide) (by decide), by decide, by decide⟩
        flat := by decide }⟩
      options := [
        (.of " ", .references (.of "references") (.of " ")
          ⟨⟨.of "users", .double⟩, .of " ", ⟨.of "id", .none⟩⟩),
        (.of " ", .unique (.of "unique")),
        (.of " ", .notNull (.of "not") (.of " ") (.of "NULL"))]
      once := by decide }⟩,
    ⟨.of " ", .of "", .key {
      constraint := .of "CONSTRAINT"
      nameGap := .of " "
      name := .of "fk_1"
      foreignGap := .of " "
      foreign := .of "foreign"
      keyGap := .of " "
      key := .of "KEY"
      padding := .of ""
      column := ⟨.of "id", .none⟩
      referencesGap := .of " "
      references := .of "REFERENCES"
      gap := .of " "
      reference := ⟨⟨.of "users", .none⟩, .of "", ⟨.of "key", .single⟩⟩ }⟩]
  closing := .of "\n"
  semicolon? := some (.of " ")

/-- The columns of the example are unambiguous. -/
theorem unambiguous_orders :
    ∀ clause, .column clause ∈ orders.clauses → clause.Unambiguous := by
  -- No word of them has a keyword in it.
  intro clause member
  refine ColumnClause.Unambiguous.of_ownWords ?_
  simp only [Statement.clauses, orders, List.map_cons, List.map_nil, List.mem_cons,
    Clause.column.injEq, List.not_mem_nil, or_false, reduceCtorEq] at member
  obtain rfl | rfl := member
  · decide +kernel
  · decide +kernel

/-- A statement with all kinds of options, in both cases and with all kinds of white space, is read
as it describes. -/
theorem ofStatement_written_orders :
    orders.text = ("create  Table If NOT\texists \"orders\"(\n'id' BIGINT Primary\nkey DEFAULT " ++
        "f(1,2),\n\tuser_id\t NUMERIC(10,2) references \"users\" (id) unique not NULL ," ++
        "CONSTRAINT fk_1 foreign KEY(id) REFERENCES users('key')\n) ;").toList ∧
      Table.ofStatement orders.text = .ok {
        name := "orders".toList
        columns := [
          { name := "id".toList, type := "BIGINT".toList, nullable := true, primaryKey := true,
            unique := false, default? := some "f(1,2)".toList, references? := none },
          { name := "user_id".toList, type := "NUMERIC(10,2)".toList, nullable := false,
            primaryKey := false, unique := true, default? := none,
            references? := some ⟨"users".toList, "id".toList⟩ }]
        foreignKeys := [⟨"user_id".toList, "users".toList, "id".toList⟩,
          ⟨"id".toList, "users".toList, "key".toList⟩] } := by
  -- The text is the written statement, and the table is the one that it describes.
  refine ⟨by decide +kernel, ?_⟩
  rw [ofStatement_written orders unambiguous_orders]
  decide +kernel

end Written

end Ddl
