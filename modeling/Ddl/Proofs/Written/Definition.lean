import Ddl.Proofs.Table.Trailing
import Ddl.Proofs.Text.Widened

/-! A table is defined by clauses with commas between them, and each clause is read in its own
normal form. -/

namespace Ddl

/-- White space is neither a comma nor a parenthesis. -/
theorem CommaList.depthAfter?_cons_space {char : Char} (blank : isSpace char = true) (depth : Int)
    (rest : Text) : depthAfter? depth (char :: rest) = depthAfter? depth rest := by
  -- Each of the three marks is visible.
  have other {mark : Char} (solid : isSpace mark = false) : char ≠ mark := by
    rintro rfl
    simp [blank] at solid
  have comma := other (by decide : isSpace ',' = false)
  have same : depth + deepening char = depth := by
    simp [deepening, other (by decide : isSpace '(' = false),
      other (by decide : isSpace ')' = false)]
  rw [depthAfter?, if_neg fun separates => comma separates.1, same]

/-- White space leaves the depth as it is. -/
theorem CommaList.depthAfter?_blank {depth : Int} {space : Text} (blank : space.isBlank = true) :
    depthAfter? depth space = some depth := by
  -- None of its characters is a comma or a parenthesis.
  induction space with
  | nil => rfl
  | cons char later ih =>
    rw [Text.isBlank, List.all_cons, Bool.and_eq_true] at blank
    rw [depthAfter?_cons_space blank.1, ih blank.2]

/-- Collapsed white space leaves all commas and parentheses as they are. -/
theorem CommaList.depthAfter?_collapseFrom (depth : Int) (afterSpace : Bool) (text : Text) :
    depthAfter? depth (Text.collapseFrom afterSpace text) = depthAfter? depth text := by
  -- White space is left out or replaced by a space, and other characters are kept.
  have space : isSpace ' ' = true := by decide
  fun_induction Text.collapseFrom afterSpace text generalizing depth with
  | case1 => rfl
  | case2 char rest blank ih => rw [depthAfter?_cons_space blank, ih]
  | case3 _ char rest blank _ ih =>
    rw [depthAfter?_cons_space space, depthAfter?_cons_space blank, ih]
  | case4 _ char rest _ ih => rw [depthAfter?, depthAfter?, ih]

/-- White space at both ends of a text is additional white space. -/
theorem Text.Widened.padded {before after : Text} (blankBefore : before.isBlank = true)
    (blankAfter : after.isBlank = true) (text : Text) :
    Widened true (before ++ (text ++ after)) text := by
  -- What stands behind is white space at the end, and what stands in front is added character by
  -- character.
  induction before with
  | nil =>
    have ends : Widened true (text ++ after) (text ++ []) := .append_left text (.ends blankAfter)
    rwa [List.append_nil] at ends
  | cons char later ih =>
    rw [isBlank, List.all_cons, Bool.and_eq_true] at blankBefore
    exact .more blankBefore.1 (ih blankBefore.2)

namespace Written

variable {text before after tail : Text} {clauses : List Text}

/-- Without comments a text has only its white space to be brought into normal form. -/
theorem NoComment.normalize_eq (noComment : NoComment text) :
    normalize text = text.collapse.trim := by
  rw [normalize, LineComment.drop_eq_self noComment.line,
    BlockComment.drop_eq_self noComment.block]

/-- In front of a word a run of white space becomes one space. -/
theorem collapseFrom_oneSpace {space word : Text} (blank : space.isBlank = true)
    (solid : Solid word) (rest : Text) : Text.collapseFrom false (space ++ (word ++ rest)) =
      oneSpace space ++ (word ++ Text.collapseFrom false rest) := by
  by_cases none : space = []
  · simp [none, oneSpace, Text.collapseFrom_solid solid]
  · simp [none, oneSpace, Text.collapseFrom_gap blank none, Text.collapseFrom_solid solid]

/-- White space that is a single space. -/
def Gap.single : Gap :=
  ⟨[' '], by decide, by simp⟩

/-- A text that can stand between the commas of a definition. -/
structure IsClause (clause : Text) : Prop extends NoComment clause where
  /-- No comma of the clause separates, and its parentheses are closed. -/
  level : CommaList.depthAfter? 0 clause = some 0

/-- White space can stand around a clause. -/
theorem IsClause.padded (isClause : IsClause text) (blankBefore : before.isBlank = true)
    (blankAfter : after.isBlank = true) : IsClause (before ++ (text ++ after)) where
  line := by
    have widened := Text.Widened.padded blankBefore blankAfter text
    rw [widened.pair_iff (by decide) (by decide)]
    -- A pair of visible characters is no pair with white space.
    exact isClause.line
  block := by
    have widened := Text.Widened.padded blankBefore blankAfter text
    rw [widened.pair_iff (by decide) (by decide)]
    exact isClause.block
  level := by
    rw [CommaList.depthAfter?_append, CommaList.depthAfter?_blank blankBefore, Option.bind_some,
      CommaList.depthAfter?_append, isClause.level, Option.bind_some,
      CommaList.depthAfter?_blank blankAfter]

/-- White space around a clause is not part of its normal form. -/
theorem IsClause.normalize_padded (isClause : IsClause text) (blankBefore : before.isBlank = true)
    (blankAfter : after.isBlank = true) :
    normalize (before ++ (text ++ after)) = normalize text := by
  rw [(isClause.padded blankBefore blankAfter).normalize_eq, isClause.normalize_eq]
  exact (Text.Widened.padded blankBefore blankAfter text).trim_collapse

/-- Tokens of a clause make a clause. -/
theorem IsClause.of_spell {pieces : List Piece} (inClause : ∀ piece ∈ pieces, piece.InClause) :
    IsClause (spell pieces) where
  toNoComment := (noComment_spell fun piece member => (inClause piece member).toSound).1
  level := by
    -- Single spaces instead of white space make no difference to the depth.
    rw [← CommaList.depthAfter?_collapseFrom 0 false,
      collapseFrom_spell fun piece member => (inClause piece member).toSound]
    exact level_spell inClause

/-- The clause as it is written behind white space, brought into normal form. -/
theorem normalize_spell_pieces (clause : Clause) (blank : before.isBlank = true) :
    normalize (spell (clause.pieces before)) = clause.normal := by
  have inClause := clause.inClause blank
  rw [(IsClause.of_spell inClause).normalize_eq, Text.collapse,
    collapseFrom_spell fun piece member => (inClause piece member).toSound, clause.spell_single]
  -- The space in front of the first token is trimmed away.
  have trimmed : Text.trim (oneSpace before ++ (clause.normal ++ [])) = clause.normal :=
    Text.trim_blank_append clause.tight_normal (isBlank_oneSpace before) rfl
  simpa using trimmed

end Written

namespace Grammar

open Written

/-- A keyword has no white space. -/
theorem Spelling.solid {name : String} (spelling : Spelling name) : Solid spelling.text :=
  ⟨spelling.present, fun char member => isSpace_of_isWord (spelling.isWord char member)⟩

/-- A name with its marks has no white space. -/
theorem MarkedName.solid (marked : MarkedName) : Solid marked.text := by
  -- It is made of quotes and word characters.
  refine ⟨by simp [MarkedName.text, marked.name.present], fun char member => ?_⟩
  simp only [MarkedName.text, List.mem_append] at member
  obtain (opening | name) | closing := member
  · exact isSpace_of_isQuote (marked.opening.quote char opening)
  · exact isSpace_of_isWord (List.all_eq_true.mp marked.name.word char name)
  · exact isSpace_of_isQuote (marked.closing.quote char closing)

/-- The keywords with a single space behind each of them. -/
def Guard.single (guard : Guard) : Guard :=
  { guard with ifGap := .single, notGap := .single, existsGap := .single }

/-- The header with a single space where it has white space. -/
def Header.single (header : Header) : Header :=
  { header with
    createGap := .single
    tableGap := .single
    guard? := header.guard?.map Guard.single
    padding := ⟨oneSpace header.padding.text, isBlank_oneSpace _⟩ }

/-- Collapsed white space makes a header with single spaces of a header. -/
theorem Header.collapseFrom_text (header : Header) (rest : Text) :
    Text.collapseFrom false (header.text ++ rest) =
      header.single.text ++ Text.collapseFrom false rest := by
  -- White space behind a word becomes a single space.
  have gapped {word : Text} (solid : Solid word) (gap : Gap) (afterSpace : Bool) (rest : Text) :
      Text.collapseFrom afterSpace (word ++ (gap.text ++ rest)) =
        word ++ ' ' :: Text.collapseFrom true rest := by
    rw [Text.collapseFrom_solid solid, Text.collapseFrom_gap gap.blank gap.present]
  have ended (afterSpace : Bool) : Text.collapseFrom afterSpace
      (header.name.text ++ (header.padding.text ++ '(' :: rest)) =
        header.name.text ++
          (oneSpace header.padding.text ++ '(' :: Text.collapseFrom false rest) := by
    have opening : Solid ['('] := .of_any (by simp) (by decide)
    have padded := collapseFrom_oneSpace header.padding.blank opening rest
    rw [Text.collapseFrom_solid header.name.solid]
    exact congrArg (header.name.text ++ ·) padded
  -- The two keywords come first, and then the optional ones, if there are any.
  rw [header.text_append, header.single.text_append, gapped header.create.solid,
    gapped header.table.solid, Header.naming, Header.naming, Header.guardText, Header.guardText]
  cases given : header.guard? with
  | none => simp [Header.single, given, ended, Gap.single]
  | some guard =>
    simp only [Option.elim_some, Guard.text, List.append_assoc, gapped guard.ifWord.solid,
      gapped guard.notWord.solid, gapped guard.existsWord.solid, ended]
    simp [Header.single, given, Guard.single, Guard.text, Gap.single]

/-- A header is found at the beginning of a text. -/
theorem Header.find?_text (header : Header) (rest : Text) :
    TableHeader.find? (header.text ++ rest) =
      some ⟨header.name.name.text, header.front.length⟩ := by
  refine TableHeader.find?_eq_some_iff.mpr ⟨0, header, List.prefix_append _ _, ?_, by simp⟩
  -- No place is in front of the first one.
  intro earlier before
  exact absurd before (Nat.not_lt_zero earlier)

end Grammar

namespace Written

variable {text tail : Text} {clauses : List Text}

/-- The header of a table, with the same white space everywhere and without quotes. -/
def headerOf (create : Keyword "CREATE") (table : Keyword "TABLE") (gap : Gap) (name : Name) :
    Grammar.Header where
  create := create.spelling
  createGap := gap
  table := table.spelling
  tableGap := gap
  guard? := none
  name := ⟨⟨[], by simp, by simp⟩, name, ⟨[], by simp, by simp⟩⟩
  padding := ⟨gap.text, gap.blank⟩

/-- A statement with a header, clauses between commas, and something behind the parenthesis that
closes. -/
def definition (header : Grammar.Header) (clauses : List Text) (tail : Text) : Text :=
  header.text ++ (Text.join [','] clauses ++ ')' :: tail)

/-- What is joined is not empty when one of the clauses is not. -/
theorem join_ne_nil {clause : Text} (member : clause ∈ clauses) (present : clause ≠ []) :
    Text.join [','] clauses ≠ [] := by
  -- The clause stands in what is joined.
  intro empty
  have inside := CommaList.infix_join member
  rw [empty, List.infix_nil] at inside
  exact present inside

/-- No comment begins in clauses that are joined. -/
theorem noComment_join (isClause : ∀ clause ∈ clauses, IsClause clause) :
    NoComment (Text.join [','] clauses) := by
  have comma : StaysApart [','] := by simp [StaysApart]
  induction clauses with
  | nil => exact StaysApart.noComment (by simp [Text.join, StaysApart])
  | cons clause later ih =>
    rw [List.forall_mem_cons] at isClause
    by_cases last : later = []
    · -- A clause alone is written without a comma.
      simpa [last, Text.join] using isClause.1.toNoComment
    · -- No comment begins on either side of the comma.
      rw [Text.join_cons last]
      exact isClause.1.toNoComment.append (comma.noComment.append (ih isClause.2) (.inr comma))
        (.inl (by simp [BeginsApart]))

/-- The parts of a block in normal form are the normal forms of its clauses. -/
theorem map_trim_parts_join (isClause : ∀ clause ∈ clauses, IsClause clause)
    (present : clauses ≠ []) :
    (CommaList.parts (Text.join [','] clauses).collapse).map Text.trim =
      clauses.map normalize := by
  induction clauses with
  | nil => exact absurd rfl present
  | cons clause later ih =>
    rw [List.forall_mem_cons] at isClause
    have level : CommaList.depthAfter? 0 clause.collapse = some 0 := by
      rw [Text.collapse, CommaList.depthAfter?_collapseFrom, isClause.1.level]
    by_cases last : later = []
    · simp [last, Text.join, CommaList.parts_eq_singleton level, isClause.1.normalize_eq]
    · -- The comma behind the clause cuts it off, and the others are a block again.
      have cut : (clause ++ ',' :: Text.join [','] later).collapse =
          clause.collapse ++ ',' :: (Text.join [','] later).collapse :=
        Text.collapseFrom_append_cons (by decide) false _ _
      rw [Text.join_cons last, List.singleton_append, cut, CommaList.parts_append_comma level,
        List.map_cons, ih isClause.2 last, List.map_cons, isClause.1.normalize_eq]

/-- The normal form of a definition has single spaces in its header, and its clauses are collapsed.
-/
theorem normalize_definition (header : Grammar.Header)
    (isClause : ∀ clause ∈ clauses, IsClause clause) : normalize (definition header clauses []) =
      header.single.front ++ '(' :: ((Text.join [','] clauses).collapse ++ [')']) := by
  have front : StaysApart header.text := by
    simp [StaysApart, Grammar.Header.text,
      header.not_mem_front (by decide : isWord '-' = false) (by decide) (by decide),
      header.not_mem_front (by decide : isWord '/' = false) (by decide) (by decide)]
  have closing : StaysApart [')'] := by simp [StaysApart]
  have block := (noComment_join isClause).append closing.noComment (.inl (by simp [BeginsApart]))
  have whole : NoComment (definition header clauses []) :=
    front.noComment.append block (.inr front)
  -- With the header and the parentheses collapsed, only the clauses are left.
  have collapsed : (definition header clauses []).collapse =
      header.single.text ++ ((Text.join [','] clauses).collapse ++ [')']) := by
    rw [Text.collapse, definition, header.collapseFrom_text,
      Text.collapseFrom_append_cons (by decide)]
    rfl
  -- It begins with a keyword and ends with a parenthesis, so there is nothing to trim.
  have tight : (header.single.text ++ ((Text.join [','] clauses).collapse ++ [')'])).Tight := by
    obtain ⟨char, first, solid⟩ := header.create.solid.tight.head
    refine ⟨⟨char, ?_, solid⟩, ⟨')', by simp, by decide⟩⟩
    rw [header.single.text_append]
    simp [List.head?_append, Option.mem_def.mp first, Grammar.Header.single]
  rw [whole.normalize_eq, collapsed, Text.trim_of_tight tight]
  simp [Grammar.Header.text]

/-- A text that is not empty is not collapsed to nothing. -/
theorem collapse_ne_nil (present : text ≠ []) : text.collapse ≠ [] := by
  -- The first character is kept or replaced by a space.
  cases text with
  | nil => exact absurd rfl present
  | cons char rest =>
    rw [Text.collapse, Text.collapseFrom]
    split <;> simp

/-- A definition gives what its clauses give one by one, each in its normal form. -/
theorem ofStatement_definition (header : Grammar.Header) (trailing : IsTrailing tail)
    (isClause : ∀ clause ∈ clauses, IsClause clause)
    (present : Text.join [','] clauses ≠ []) :
    Table.ofStatement (definition header clauses tail) =
      (TableBody.ofClauses (clauses.map normalize)).map
        fun body => ⟨header.name.name.text, body.columns, body.foreignKeys⟩ := by
  have nonempty : clauses ≠ [] := by
    rintro rfl
    exact present rfl
  -- In normal form the header ends with the parenthesis at which the block opens.
  have normal := normalize_definition header isClause
  have nothing : ')' ∉ ([] : Text) := List.not_mem_nil
  -- Without what follows, the header and the block are found where they are written.
  have found : TableHeader.find? (normalize (definition header clauses [])) =
      some ⟨header.name.name.text, header.single.front.length⟩ := by
    have begins : normalize (definition header clauses []) =
        header.single.text ++ ((Text.join [','] clauses).collapse ++ [')']) := by
      rw [normal]
      simp [Grammar.Header.text]
    rw [begins, header.single.find?_text]
    rfl
  have given : TableBody.block? (normalize (definition header clauses []))
      header.single.front.length = some (Text.join [','] clauses).collapse := by
    rw [normal]
    exact TableBody.block?_append (collapse_ne_nil present) nothing
  -- What follows is cut off first, since it cannot change the outcome.
  have split : definition header clauses tail = definition header clauses [] ++ tail := by
    simp [definition]
  have block : TableBody.ofClauses (TableBody.clausesOf (Text.join [','] clauses).collapse) =
      TableBody.ofClauses (clauses.map normalize) := by
    rw [← map_trim_parts_join isClause nonempty]
    exact TableBody.ofBlock_eq _
  rw [split, Table.ofStatement_append_of_block found given trailing,
    Table.ofStatement_of_block found given, block]

end Written

end Ddl
