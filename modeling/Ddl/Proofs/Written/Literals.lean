import Ddl.Proofs.Comment.Quoted
import Ddl.Proofs.Table.Clauses
import Ddl.Proofs.Written.Statements
import Mathlib.Data.List.Basic

/-! The columns of a table are read as they are declared with literals for their default values,
unless a literal cuts its clause or reaches out of it. -/

namespace Ddl

namespace Written

open Pattern

/-- A column whose default value is a literal. -/
structure LiteralColumn where
  name : Name
  type : Name
  /-- What stands between the quotes. -/
  content : Text

/-- The clause up to the quote in front of the content. -/
def LiteralColumn.opening (column : LiteralColumn) : Text :=
  column.name.text ++ Text.spaced [column.type.text, "DEFAULT".toList, ['\'']]

/-- The clause as it is written. -/
def LiteralColumn.text (column : LiteralColumn) : Text :=
  column.opening ++ (column.content ++ ['\''])

/-- The same column with another content. -/
def LiteralColumn.change (change : Text → Text) (column : LiteralColumn) : LiteralColumn :=
  { column with content := change column.content }

/-- The clauses of a table with commas between them. -/
def literalBlock (columns : List LiteralColumn) : Text :=
  Text.join ", ".toList (columns.map LiteralColumn.text)

/-- The statement that creates a table of such columns. -/
def literalStatement (table : Name) (columns : List LiteralColumn) : Text :=
  "CREATE TABLE ".toList ++ table.text ++ " (".toList ++ literalBlock columns ++ [')']

/-- The contents of columns, each behind everything in front of it. -/
def literalPairs : Text → List LiteralColumn → List (Text × Text)
  | _, [] => []
  | front, column :: later =>
    (front ++ column.opening, column.content) :: literalPairs ", ".toList later

variable {columns : List LiteralColumn} {table : Name}

/-- No white space of the clause is collapsed in front of the content. -/
theorem LiteralColumn.collapseFrom_opening_append (column : LiteralColumn) (afterSpace : Bool)
    (rest : Text) : Text.collapseFrom afterSpace (column.opening ++ rest) =
      column.opening ++ Text.collapseFrom false rest := by
  -- Between its words the clause has single spaces, and a quote ends it.
  have name := column.name.isPlain.token.toSolid
  have type := column.type.isPlain.token.toSolid
  have keyword : Solid "DEFAULT".toList := .of_any (by decide) (by decide)
  have space : ∀ rest, Text.collapseFrom false (' ' :: rest) = ' ' :: Text.collapseFrom true rest :=
    fun _ => rfl
  have quote : ∀ rest, Text.collapseFrom true ('\'' :: rest) =
      '\'' :: Text.collapseFrom false rest := fun _ => rfl
  simp only [opening, Text.spaced_cons, Text.spaced_nil, List.append_nil, List.append_assoc,
    List.cons_append, List.nil_append, Text.collapseFrom_solid name, space,
    Text.collapseFrom_solid type, Text.collapseFrom_solid keyword, quote]

/-- Neither a character of a comment nor a comma or a parenthesis is in front of the content. -/
theorem LiteralColumn.not_mem_opening (column : LiteralColumn) :
    ∀ char ∈ ['-', '/', '*', '(', ')', ','], char ∉ column.opening := by
  -- The clause is made of two names, a keyword, spaces and a quote.
  have none : ∀ char ∈ ['-', '/', '*', '(', ')', ','], isWord char = false ∧ char ≠ ' ' ∧
    char ≠ '\'' ∧ char ∉ "DEFAULT".toList := List.forall_iff_forall_mem.mp (by decide)
  intro char among
  obtain ⟨word, space, quote, keyword⟩ := none char among
  simp only [opening, Text.spaced_cons, Text.spaced_nil, List.mem_append, List.mem_cons,
    List.not_mem_nil, Name.not_mem word, space, quote, keyword, or_self, not_false_eq_true]

/-- What stands between the contents of a list of columns are frames. -/
theorem isFrame_literalPairs {front : Text} (begins : ∃ char ∈ front.head?, isSpace char = false)
    (plain : ∀ char ∈ ['-', '/', '*'], char ∉ front)
    (collapsed : ∃ afterSpace, ∀ rest, Text.collapseFrom false (front ++ rest) =
      front ++ Text.collapseFrom afterSpace rest) (columns : List LiteralColumn) :
    ∀ pair ∈ literalPairs front columns, IsFrame pair.1 := by
  induction columns generalizing front with
  | nil => simp [literalPairs]
  | cons column later ih =>
    rw [literalPairs, List.forall_mem_cons]
    have comma : ∀ rest, Text.collapseFrom false (',' :: ' ' :: rest) =
        ',' :: ' ' :: Text.collapseFrom true rest := fun _ => rfl
    -- In front of each later clause stand a comma and a space.
    refine ⟨⟨?_, fun char among => ?_, fun rest => ?_⟩,
      ih ⟨',', rfl, by decide⟩ (by simp) ⟨true, comma⟩⟩
    · obtain ⟨char, first, solid⟩ := begins
      exact ⟨char, by simp [List.head?_append, Option.mem_def.mp first], solid⟩
    · rw [List.mem_append, not_or]
      exact ⟨plain char among, column.not_mem_opening char (List.mem_append_left _ among)⟩
    · obtain ⟨afterSpace, collapsed⟩ := collapsed
      rw [List.append_assoc, List.append_assoc, collapsed, column.collapseFrom_opening_append]

/-- The statement has its contents between frames. -/
theorem literalStatement_eq_quoting (present : columns ≠ []) : literalStatement table columns =
    quoting (literalPairs ("CREATE TABLE ".toList ++ table.text ++ " (".toList) columns) := by
  have general : ∀ (front : Text) (column : LiteralColumn) (later : List LiteralColumn),
      front ++ literalBlock (column :: later) ++ [')'] =
        quoting (literalPairs front (column :: later)) := by
    intro front column later
    -- The comma and the space behind a clause are the front of the next one.
    induction later generalizing front column with
    | nil => simp [literalBlock, Text.join, literalPairs, quoting, LiteralColumn.text]
    | cons next later ih =>
      rw [literalPairs, quoting_cons, ← ih]
      simp [literalBlock, Text.join, LiteralColumn.text]
  obtain ⟨column, later, rfl⟩ := List.exists_cons_of_ne_nil present
  exact general _ column later

/-- The contents are changed column by column. -/
theorem changeContents_literalPairs (change : Text → Text) (front : Text)
    (columns : List LiteralColumn) : changeContents change (literalPairs front columns) =
      literalPairs front (columns.map (LiteralColumn.change change)) := by
  induction columns generalizing front with
  | nil => rfl
  | cons column later ih => exact congrArg (_ :: ·) (ih _)

/-- The contents between the frames are those of the columns. -/
theorem map_snd_literalPairs (front : Text) (columns : List LiteralColumn) :
    (literalPairs front columns).map Prod.snd = columns.map LiteralColumn.content := by
  induction columns generalizing front with
  | nil => rfl
  | cons column later ih => exact congrArg (_ :: ·) (ih _)

/-- What stands between the contents of a statement are frames. -/
theorem isFrame_literalStatement (table : Name) (columns : List LiteralColumn) :
    ∀ pair ∈ literalPairs ("CREATE TABLE ".toList ++ table.text ++ " (".toList) columns,
      IsFrame pair.1 := by
  have name := table.isPlain.token.toSolid
  have front : ∀ rest, Text.collapseFrom false ("CREATE TABLE ".toList ++ rest) =
      "CREATE TABLE ".toList ++ Text.collapseFrom true rest := fun _ => rfl
  have back : ∀ rest, Text.collapseFrom false (" (".toList ++ rest) =
      " (".toList ++ Text.collapseFrom false rest := fun _ => rfl
  have none : ∀ char ∈ ['-', '/', '*'], isWord char = false ∧
    char ∉ "CREATE TABLE ".toList ∧ char ∉ " (".toList :=
      List.forall_iff_forall_mem.mp (by decide)
  -- The beginning of the statement has single spaces and none of the signs of comments.
  refine isFrame_literalPairs ⟨'C', rfl, by decide⟩ (fun char among => ?_)
    ⟨false, fun rest => ?_⟩ columns
  · obtain ⟨word, inFront, inBack⟩ := none char among
    rw [List.mem_append, List.mem_append, not_or, not_or]
    exact ⟨⟨inFront, Name.not_mem word table⟩, inBack⟩
  · rw [List.append_assoc, List.append_assoc, front, Text.collapseFrom_solid name, back,
      List.append_assoc, List.append_assoc]

/-- The normal form of the statement has the kept contents. -/
theorem normalize_literalStatement (present : columns ≠ [])
    (contained : Contained (columns.map LiteralColumn.content)) :
    normalize (literalStatement table columns) =
      literalStatement table (columns.map (LiteralColumn.change keptContent)) := by
  rw [literalStatement_eq_quoting present, normalize_quoting (isFrame_literalStatement _ _)
    (by rwa [map_snd_literalPairs]), changeContents_literalPairs,
    literalStatement_eq_quoting (by simpa using present)]

/-- A statement with the same header, which is read whatever stands in its parentheses. -/
def sameHeader (table : Name) : Statement :=
  { uniqueId with name := ⟨table, .none⟩ }

/-- The header is written with its words and single spaces. -/
theorem front_sameHeader (table : Name) :
    (sameHeader table).front = "CREATE TABLE ".toList ++ (table.text ++ [' ']) := by
  simp [sameHeader, uniqueId, Statement.front, Statement.header, Keyword.of, Gap.of, Padding.of,
    Piece.single, oneSpace, spell, QuotedName.text, Quotes.mark]

/-- The statement is its header and its block in parentheses. -/
theorem literalStatement_eq_front (table : Name) (columns : List LiteralColumn) :
    literalStatement table columns =
      (sameHeader table).front ++ '(' :: (literalBlock columns ++ [')']) := by
  -- What the block holds does not matter here.
  rw [front_sameHeader]
  unfold literalStatement
  generalize literalBlock columns = block
  simp

/-- The parts of a content with its closing quote that a comma cuts off from the clause. -/
def LiteralColumn.looseParts (column : LiteralColumn) : List Text :=
  (CommaList.parts (column.content ++ ['\''])).tail

/-- What stands in front of the content begins and ends with visible characters. -/
theorem LiteralColumn.tight_opening (column : LiteralColumn) : column.opening.Tight where
  head := by
    -- The clause begins with its name and ends with the quote.
    obtain ⟨char, first, solid⟩ := column.name.isPlain.token.toSolid.tight.head
    exact ⟨char, by simp [opening, List.head?_append, Option.mem_def.mp first], solid⟩
  last := by
    have split : column.opening =
        column.name.text ++ ' ' :: (column.type.text ++ " DEFAULT ".toList) ++ ['\''] := by
      simp [opening]
    exact ⟨'\'', by rw [split, List.getLast?_concat]; rfl, by decide⟩

/-- No comma in front of the content separates, and no parenthesis stands there. -/
theorem LiteralColumn.level_opening (column : LiteralColumn) :
    CommaList.depthAfter? 0 column.opening = some 0 :=
  CommaList.depthAfter?_eq_self
    ⟨column.not_mem_opening '(' (by simp), column.not_mem_opening ')' (by simp)⟩
    fun _ => column.not_mem_opening ',' (by simp)

/-- No foreign key begins with a name, a type and another keyword. -/
theorem opens_opening (column : LiteralColumn) (rest : Text) :
    ForeignKeyClause.opens (column.opening ++ rest) = false := by
  -- The second word of the clause is a type, where a foreign key would have another keyword.
  have written : column.opening ++ rest = column.name.text ++ ' ' :: (column.type.text ++
      ' ' :: ("DEFAULT".toList ++ ' ' :: '\'' :: rest)) := by
    simp [LiteralColumn.opening]
  rw [written]
  exact opens_word_name column.name.isPlain.token.toSolid column.type (by rfl) (by simp +decide)

/-- The clause is read as a column with the name and the type, whatever stands behind the quote. -/
theorem ofClause_opening (column : LiteralColumn) (rest : Text) : ∃ found : Column,
    TableBody.ofClause (column.opening ++ rest).trim = .ok (TableBody.ofColumn found) ∧
      found.name = column.name.text ∧ found.type = column.type.text := by
  -- Trimming keeps what stands in front of the content, and the header is read there.
  obtain ⟨more, trimmed⟩ := Text.exists_trim_append column.tight_opening rest
  have written : column.opening ++ more = QuotedName.text ⟨column.name, .none⟩ ++
      Text.spaced [TypeName.text ⟨column.type, none⟩, "DEFAULT".toList, '\'' :: more] := by
    simp [LiteralColumn.opening, QuotedName.text, Quotes.mark, TypeName.text, TypeName.suffix]
  obtain ⟨found, matched, isName, isType⟩ := matchStart?_written_header ⟨column.name, .none⟩
    ⟨column.type, none⟩ ["DEFAULT".toList, '\'' :: more]
  rw [← written] at matched
  rw [trimmed, TableBody.ofClause, opens_opening, Ddl.ColumnClause.column?, matched]
  refine ⟨_, rfl, isName, ?_⟩
  simpa [TypeName.text, TypeName.suffix] using isType

/-- The commas in a content cut its clause, and the first part is read as the column. -/
theorem LiteralColumn.parts_text (column : LiteralColumn) : ∃ first,
    CommaList.parts column.text = (column.opening ++ first) :: column.looseParts := by
  obtain ⟨first, later, alone, behind⟩ :=
    CommaList.parts_append column.level_opening (column.content ++ ['\''])
  exact ⟨first, by rw [text, behind, looseParts, alone, List.tail_cons]⟩

/-- Only the content of a column can open or close parentheses. -/
theorem LiteralColumn.rise_text (column : LiteralColumn) :
    CommaList.rise column.text = CommaList.rise column.content := by
  -- Neither what stands in front of the content nor the quote behind it has one.
  have opening := CommaList.rise_of_depthAfter? column.level_opening
  have quote : CommaList.rise ['\''] = 0 := rfl
  rw [text, CommaList.rise_append, CommaList.rise_append, quote]
  omega

/-- The clauses that a written clause is cut into. -/
def LiteralColumn.clauses (column : LiteralColumn) : List Text :=
  (CommaList.parts column.text).map Text.trim

/-- Between clauses whose contents are level the commas separate. -/
theorem map_trim_parts_literalBlock (present : columns ≠ [])
    (level : ∀ column ∈ columns.dropLast, CommaList.rise column.content = 0) :
    (CommaList.parts (literalBlock columns)).map Text.trim =
      columns.flatMap LiteralColumn.clauses := by
  -- At depth zero the comma between two columns ends the parts of the first one.
  induction columns with
  | nil => exact absurd rfl present
  | cons column later ih =>
    cases later with
    | nil => simp [literalBlock, Text.join, LiteralColumn.clauses]
    | cons next later =>
      rw [List.dropLast_cons_cons, List.forall_mem_cons] at level
      have written : literalBlock (column :: next :: later) =
          column.text ++ ',' :: ' ' :: literalBlock (next :: later) := by
        simp [literalBlock, Text.join]
      rw [written, CommaList.parts_append_comma_of_rise (column.rise_text.trans level.1),
        List.map_append, CommaList.map_trim_parts_space, ih (by simp) level.2]
      rfl

/-- A block ends with the quote of its last content. -/
theorem exists_literalBlock (present : columns ≠ []) :
    ∃ front, literalBlock columns = front ++ ['\''] := by
  -- The last column is the last of the others, or the only one.
  induction columns with
  | nil => exact absurd rfl present
  | cons column later ih =>
    cases later with
    | nil => exact ⟨column.opening ++ column.content, by
        simp [literalBlock, Text.join, LiteralColumn.text]⟩
    | cons next later =>
      obtain ⟨front, whole⟩ := ih (by simp)
      refine ⟨column.text ++ ", ".toList ++ front, ?_⟩
      rw [List.append_assoc _ front, ← whole]
      rfl

/-- What is declared of a column. -/
def declaration (column : Column) : Text × Text :=
  (column.name, column.type)

/-- What the clause declares. -/
def LiteralColumn.declaration (column : LiteralColumn) : Text × Text :=
  (column.name.text, column.type.text)

/-- No part that a comma in the content cuts off is read as a column or is faulty. -/
def LiteralColumn.Whole (column : LiteralColumn) : Prop :=
  ∀ part ∈ column.looseParts, ∃ keys, TableBody.ofClause part.trim = .ok ⟨[], keys⟩

/-- A content is whole when what is cut off from it gives no column and is not faulty. -/
theorem LiteralColumn.whole_iff {column : LiteralColumn} : column.Whole ↔
    ∃ keys, TableBody.ofClauses (column.looseParts.map Text.trim) = .ok ⟨[], keys⟩ := by
  rw [TableBody.ofClauses_eq_keys_iff, List.forall_mem_map]
  rfl

/-- A clause gives its column, and behind that the columns of what is cut off from it. -/
theorem LiteralColumn.ofClauses_clauses (column : LiteralColumn) : ∃ found : Column,
    Written.declaration found = column.declaration ∧
      TableBody.ofClauses column.clauses = (do
        let rest ← TableBody.ofClauses (column.looseParts.map Text.trim)
        return (TableBody.ofColumn found).append rest) := by
  -- The first part begins with the name and the type, and the others are loose.
  obtain ⟨first, cut⟩ := column.parts_text
  obtain ⟨found, read, name, type⟩ := ofClause_opening column first
  refine ⟨found, Prod.ext name type, ?_⟩
  rw [clauses, cut, List.map_cons, TableBody.ofClauses, read]
  rfl

/-- Contents that are whole give just the declared columns. -/
theorem exists_ofClauses_of_whole (whole : ∀ column ∈ columns, column.Whole) :
    ∃ body, TableBody.ofClauses (columns.flatMap LiteralColumn.clauses) = .ok body ∧
      body.columns.map declaration = columns.map LiteralColumn.declaration := by
  -- Each content adds its own column and perhaps keys.
  induction columns with
  | nil => exact ⟨⟨[], []⟩, rfl, rfl⟩
  | cons column later ih =>
    rw [List.forall_mem_cons] at whole
    obtain ⟨body, others, declared⟩ := ih whole.2
    obtain ⟨found, same, read⟩ := column.ofClauses_clauses
    obtain ⟨keys, loose⟩ := LiteralColumn.whole_iff.mp whole.1
    refine ⟨((TableBody.ofColumn found).append ⟨[], keys⟩).append body, ?_, ?_⟩
    · rw [List.flatMap_cons, TableBody.ofClauses_append, read, loose, others]
      rfl
    · simp [TableBody.append, TableBody.ofColumn, same, declared]

/-- Every clause gives its column, so no more are read than declared only if all contents are
whole. -/
theorem length_of_ofClauses {body : TableBody}
    (read : TableBody.ofClauses (columns.flatMap LiteralColumn.clauses) = .ok body) :
    columns.length ≤ body.columns.length ∧
      (body.columns.length ≤ columns.length → ∀ column ∈ columns, column.Whole) := by
  -- The columns are counted clause by clause.
  induction columns generalizing body with
  | nil => simp
  | cons column later ih =>
    obtain ⟨found, -, first⟩ := column.ofClauses_clauses
    rw [List.flatMap_cons, TableBody.ofClauses_append, first] at read
    -- Nothing is read where a part is faulty.
    cases loose : TableBody.ofClauses (column.looseParts.map Text.trim) with
    | error fault => simp [loose, bind, Except.bind] at read
    | ok rest =>
      cases others : TableBody.ofClauses (later.flatMap LiteralColumn.clauses) with
      | error fault => simp [loose, others, bind, Except.bind, pure, Except.pure] at read
      | ok more =>
        obtain ⟨enough, exactly⟩ := ih others
        obtain rfl : ((TableBody.ofColumn found).append rest).append more = body := by
          simpa [loose, others, bind, Except.bind, pure, Except.pure] using read
        have count : (((TableBody.ofColumn found).append rest).append more).columns.length =
            1 + (rest.columns.length + more.columns.length) := by
          simp only [TableBody.append, TableBody.ofColumn, List.length_append,
            List.length_singleton, Nat.add_assoc]
        rw [count, List.length_cons]
        refine ⟨by omega, fun few => ?_⟩
        rw [List.forall_mem_cons]
        refine ⟨?_, exactly (by omega)⟩
        -- Each other clause takes one of the columns, so none is left for what is cut off.
        have none : rest.columns = [] := List.length_eq_zero_iff.mp (by omega)
        exact LiteralColumn.whole_iff.mpr ⟨rest.foreignKeys, by rw [loose, ← none]⟩

/-- A statement in normal form whose contents are level gives just the declared columns exactly when
its contents are whole. -/
theorem ofBlock_literalBlock_iff (present : columns ≠ [])
    (level : ∀ column ∈ columns.dropLast, CommaList.rise column.content = 0) :
    (∃ body, TableBody.ofBlock (literalBlock columns) = .ok body ∧
        body.columns.map declaration = columns.map LiteralColumn.declaration) ↔
      ∀ column ∈ columns, column.Whole := by
  obtain ⟨front, ends⟩ := exists_literalBlock present
  have split : CommaList.split (literalBlock columns) = CommaList.parts (literalBlock columns) := by
    rw [ends, CommaList.split_append_singleton (by decide) (by decide)]
  rw [TableBody.ofBlock, split, map_trim_parts_literalBlock present level]
  refine ⟨?_, exists_ofClauses_of_whole⟩
  rintro ⟨body, read, declared⟩
  -- The number of the columns is enough to tell that nothing else was read as one.
  have length := congrArg List.length declared
  rw [List.length_map, List.length_map] at length
  exact (length_of_ofClauses read).2 length.le

/-- The statement gives a table exactly when the block with the kept contents is read. -/
theorem ofStatement_literalStatement (present : columns ≠ [])
    (contained : Contained (columns.map LiteralColumn.content)) :
    Table.ofStatement (literalStatement table columns) =
      (TableBody.ofBlock (literalBlock (columns.map (LiteralColumn.change keptContent)))).map
        fun body => ⟨table.text, body.columns, body.foreignKeys⟩ := by
  -- The header and the block are found in the normal form, in which the contents are those that are
  -- kept.
  have nonempty : columns.map (LiteralColumn.change keptContent) ≠ [] := by simpa using present
  have block : literalBlock (columns.map (LiteralColumn.change keptContent)) ≠ [] := by
    obtain ⟨front, ends⟩ := exists_literalBlock nonempty
    simp [ends]
  have nothing : ')' ∉ ([] : Text) := by simp
  rw [Table.ofStatement, normalize_literalStatement present contained, literalStatement_eq_front]
  simp only [find?_front, Option.elim_some, bind, Except.bind,
    TableBody.block?_append block nothing]
  cases TableBody.ofBlock (literalBlock (columns.map (LiteralColumn.change keptContent))) <;> rfl

/-- Columns with literals for their default values are read just as they are declared, if no comment
reaches out of a literal and as many parentheses are closed as opened in each one but the last,
exactly when no part that a comma in a literal cuts off is read as a column or is faulty. -/
theorem ofStatement_literals_iff (table : Name) (present : columns ≠ [])
    (contained : Contained (columns.map LiteralColumn.content))
    (level : ∀ column ∈ columns.dropLast, CommaList.rise (keptContent column.content) = 0) :
    (∃ result, Table.ofStatement (literalStatement table columns) = .ok result ∧
        result.name = table.text ∧
        result.columns.map declaration = columns.map LiteralColumn.declaration) ↔
      ∀ column ∈ columns, (column.change keptContent).Whole := by
  -- The names and the types do not change with the contents, and the block decides.
  have nonempty : columns.map (LiteralColumn.change keptContent) ≠ [] := by simpa using present
  have levels : ∀ column ∈ (columns.map (LiteralColumn.change keptContent)).dropLast,
      CommaList.rise column.content = 0 := by
    rw [← List.map_dropLast, List.forall_mem_map]
    exact level
  have declared : (columns.map (LiteralColumn.change keptContent)).map LiteralColumn.declaration =
      columns.map LiteralColumn.declaration := List.map_map
  have inBlock := ofBlock_literalBlock_iff nonempty levels
  rw [declared, List.forall_mem_map] at inBlock
  rw [← inBlock, ofStatement_literalStatement present contained]
  cases TableBody.ofBlock (literalBlock (columns.map (LiteralColumn.change keptContent))) with
  | error fault => simp [Except.map]
  | ok body => simp [Except.map]

/-- Literals with a comma, with parentheses that are closed, with a comment that ends and with one
that does not. -/
def notes : List LiteralColumn :=
  [⟨.of "a", .of "TEXT", "x, (y) -- z\n".toList⟩, ⟨.of "b", .of "DATE", "/* (".toList⟩]

/-- Commas, parentheses and signs of comments in literals leave these two columns as they are
declared. -/
theorem ofStatement_literals_iff_notes :
    notes ≠ [] ∧ Contained (notes.map LiteralColumn.content) ∧
      (∀ column ∈ notes.dropLast, CommaList.rise (keptContent column.content) = 0) ∧
      ∃ result, Table.ofStatement
          "CREATE TABLE t (a TEXT DEFAULT 'x, (y) -- z\n', b DATE DEFAULT '/* (')".toList =
            .ok result ∧
        result.name = "t".toList ∧
        result.columns.map declaration =
          [("a".toList, "TEXT".toList), ("b".toList, "DATE".toList)] := by
  have present : notes ≠ [] := by decide
  have contained : Contained (notes.map LiteralColumn.content) := by
    refine ⟨fun content member => LineComment.isOpen_eq_false_iff.mp ?_, ?_⟩
    · revert content
      decide +kernel
    · decide +kernel
  have level : ∀ column ∈ notes.dropLast, CommaList.rise (keptContent column.content) = 0 := by
    decide +kernel
  have whole : ∀ column ∈ notes, (column.change keptContent).Whole := by
    -- What the comma cuts off begins with a parenthesis and not with a name.
    have loose : ∀ column ∈ notes, ∀ part ∈ (column.change keptContent).looseParts,
        TableBody.ofClause part.trim = .ok ⟨[], []⟩ := by decide +kernel
    exact fun column member part inside => ⟨[], loose column member part inside⟩
  refine ⟨present, contained, level, ?_⟩
  exact (ofStatement_literals_iff (.of "t") present contained level).mpr whole

/-- A parenthesis in a literal hides the comma behind it, and with it the second column. -/
theorem ofStatement_literals_parenthesis :
    literalStatement (.of "t")
          [⟨.of "a", .of "TEXT", "(".toList⟩, ⟨.of "b", .of "INT", "0".toList⟩] =
        "CREATE TABLE t (a TEXT DEFAULT '(', b INT DEFAULT '0')".toList ∧
      Table.ofStatement "CREATE TABLE t (a TEXT DEFAULT '(', b INT DEFAULT '0')".toList =
        .ok ⟨"t".toList, [⟨"a".toList, "TEXT".toList, true, false, false, some "(',".toList, none⟩],
          []⟩ ∧
      Table.ofStatement "CREATE TABLE t (a TEXT DEFAULT '--')".toList =
        .error .missingColumnBlock := by
  refine ⟨?_, ?_, ?_⟩ <;> decide +kernel

end Written

end Ddl
