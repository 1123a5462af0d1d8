import Ddl.Proofs.Written.Columns
import Ddl.Proofs.Written.Keys

/-! The block of a written statement is cut at the commas between its clauses, and these are read
one by one. -/

namespace Ddl

namespace CommaList

variable {depth reached : Int} {front rest text : Text}

/-- A text without separating commas goes on into the first part of what follows. -/
theorem partsFrom_append (level : depthAfter? depth front = some reached) :
    partsFrom depth (front ++ rest) =
      (front ++ (partsFrom reached rest).1, (partsFrom reached rest).2) := by
  induction front generalizing depth with
  | nil =>
    obtain rfl : depth = reached := by simpa [depthAfter?] using level
    rfl
  | cons char later ih =>
    rw [depthAfter?] at level
    -- No comma in front separates, so each character goes to the first part.
    split at level
    · cases level
    · rename_i inside
      rw [List.cons_append, partsFrom, if_neg inside, ih level]
      rfl

/-- A comma separates what stands in front of it when the parentheses there are closed. -/
theorem parts_append_comma (level : depthAfter? 0 front = some 0) :
    parts (front ++ ',' :: rest) = front :: parts rest := by
  rw [parts, partsFrom_append level]
  simp [parts, partsFrom]

/-- A text without separating commas is a single part. -/
theorem parts_eq_singleton (level : depthAfter? 0 front = some reached) :
    parts front = [front] := by
  -- The text is the first part of itself with nothing behind it.
  have whole : partsFrom 0 (front ++ []) = _ := partsFrom_append level
  rw [List.append_nil] at whole
  rw [parts, whole]
  simp [partsFrom]

/-- No part is left out when none is blank. -/
theorem split_eq_parts (present : ∀ part ∈ parts text, part.isBlank = false) :
    split text = parts text := by
  -- Only a last part that is blank would be left out.
  have last : (parts text).getLast?.elim true Text.isBlank = false := by
    have some : parts text ≠ [] := by simp [parts]
    rw [List.getLast?_eq_some_getLast some]
    exact present _ (List.getLast_mem some)
  simp [split, last]

end CommaList

namespace Written

variable {space : Text}

/-- A single space or none neither opens nor separates. -/
theorem level_oneSpace (space : Text) : CommaList.depthAfter? 0 (oneSpace space) = some 0 := by
  rw [oneSpace]
  split <;> rfl

/-- No comma in pieces of a clause separates, and their parentheses are closed. -/
theorem level_spell {pieces : List Piece} (inClause : ∀ piece ∈ pieces, piece.InClause) :
    CommaList.depthAfter? 0 (spell (pieces.map Piece.single)) = some 0 := by
  -- Each piece comes back to depth zero, with its space and its word.
  induction pieces with
  | nil => rfl
  | cons piece later ih =>
    rw [List.forall_mem_cons] at inClause
    have spelled : spell ((piece :: later).map Piece.single) =
        oneSpace piece.space ++ (piece.word ++ spell (later.map Piece.single)) := spell_cons
    rw [spelled, CommaList.depthAfter?_append, level_oneSpace, Option.bind_some,
      CommaList.depthAfter?_append, inClause.1.level, Option.bind_some, ih inClause.2]

/-- No comma of a clause in normal form separates, with or without spaces around it. -/
theorem Clause.level_normal (clause : Clause) (before after : Padding) :
    CommaList.depthAfter? 0 (oneSpace before.text ++ (clause.normal ++ oneSpace after.text)) =
      some 0 := by
  have level := level_spell (clause.inClause before.blank)
  rw [clause.spell_single] at level
  rw [← List.append_assoc, CommaList.depthAfter?_append, level, Option.bind_some, level_oneSpace]

/-- A clause in normal form begins and ends with visible characters. -/
theorem Clause.tight_normal (clause : Clause) : clause.normal.Tight := by
  -- A clause begins with its first token, and every other one stands behind that.
  have first : ∃ word rest, clause.pieces [] = ⟨[], word⟩ :: rest := by
    cases clause with
    | column clause => exact ⟨_, _, rfl⟩
    | key clause => exact ⟨_, _, rfl⟩
  obtain ⟨word, rest, pieces⟩ := first
  have inClause := clause.inClause (rfl : Text.isBlank [] = true)
  have spelled : spell ((clause.pieces []).map Piece.single) = clause.normal := clause.spell_single
  rw [pieces, List.forall_mem_cons] at inClause
  rw [pieces, List.map_cons, spell_cons] at spelled
  rw [← spelled]
  -- The text begins with a token, and its last piece ends with one.
  refine tight_append_spell inClause.1.token.toSolid.tight ?_
  simpa using fun piece member => sound_single (inClause.2 piece member).toSound

/-- A block in normal form: clauses with commas between them, and padding around all of these. -/
def block (padding : Text) (first : Clause) (later : List LaterClause) (closing : Padding) : Text :=
  spell ((first.pieces padding ++ later.flatMap LaterClause.pieces).map Piece.single) ++
    oneSpace closing.text

/-- A block with one clause is this clause between spaces. -/
theorem block_nil (padding : Text) (first : Clause) (closing : Padding) :
    block padding first [] closing =
      oneSpace padding ++ (first.normal ++ oneSpace closing.text) := by
  rw [block, List.flatMap_nil, List.append_nil, first.spell_single, List.append_assoc]

/-- A block with more clauses is its first clause, a comma and the block of the others. -/
theorem block_cons (padding : Text) (first : Clause) (next : LaterClause)
    (later : List LaterClause) (closing : Padding) :
    block padding first (next :: later) closing =
      (oneSpace padding ++ (first.normal ++ oneSpace next.before.text)) ++
        ',' :: block next.after.text next.clause later closing := by
  simp [block, first.spell_single, LaterClause.pieces, Piece.single]

/-- The parts of a block are the clauses in it. -/
theorem map_trim_parts (padding : Padding) (first : Clause) (later : List LaterClause)
    (closing : Padding) :
    (CommaList.parts (block padding.text first later closing)).map Text.trim =
      (first :: later.map LaterClause.clause).map Clause.normal := by
  -- Each clause is cut off at the comma behind it, and the rest is a block again.
  induction later generalizing padding first with
  | nil =>
    rw [block_nil, CommaList.parts_eq_singleton (first.level_normal padding closing)]
    simp [Text.trim_blank_append first.tight_normal (isBlank_oneSpace _) (isBlank_oneSpace _)]
  | cons next later ih =>
    rw [block_cons, CommaList.parts_append_comma (first.level_normal padding next.before),
      List.map_cons, ih, Text.trim_blank_append first.tight_normal (isBlank_oneSpace _)
        (isBlank_oneSpace _)]
    rfl

/-- A block is split into its clauses in normal form. -/
theorem map_trim_split (padding : Padding) (first : Clause) (later : List LaterClause)
    (closing : Padding) :
    (CommaList.split (block padding.text first later closing)).map Text.trim =
      (first :: later.map LaterClause.clause).map Clause.normal := by
  rw [CommaList.split_eq_parts, map_trim_parts]
  intro part member
  have trimmed : part.trim ∈ (first :: later.map LaterClause.clause).map Clause.normal := by
    rw [← map_trim_parts padding first later closing]
    exact List.mem_map_of_mem member
  -- A blank part would be a clause with an empty normal form.
  obtain ⟨clause, -, normal⟩ := List.mem_map.mp trimmed
  cases blank : part.isBlank with
  | false => rfl
  | true =>
    rw [Text.trim_eq_nil blank] at normal
    exact absurd normal clause.tight_normal.ne_nil

/-- The body that a clause describes. -/
def Clause.body (clause : Clause) : TableBody :=
  ⟨clause.column?.toList, clause.foreignKeys⟩

/-- A clause is read as it is meant when it is a foreign key or an unambiguous column. -/
theorem ofClause_normal (clause : Clause) (clear : ∀ column, clause = .column column →
      column.Unambiguous) : TableBody.ofClause clause.normal = .ok clause.body := by
  -- The two kinds are told apart by how the clause begins.
  cases clause with
  | column clause =>
    simp only [TableBody.ofClause, Clause.normal, opens_column_normal,
      column?_normal clause (clear clause rfl)]
    rfl
  | key clause =>
    simp only [TableBody.ofClause, Clause.normal, opens_key_normal, foreignKey?_normal]
    rfl

/-- Clauses are read one by one. -/
theorem ofClauses_normal (clauses : List Clause)
    (clear : ∀ column, .column column ∈ clauses → column.Unambiguous) :
    TableBody.ofClauses (clauses.map Clause.normal) =
      .ok ⟨clauses.filterMap Clause.column?, clauses.flatMap Clause.foreignKeys⟩ := by
  induction clauses with
  | nil => rfl
  | cons clause later ih =>
    have first := ofClause_normal clause fun column same => clear column (by simp [same])
    -- The columns and keys of the first clause come in front of those of the others.
    have others := ih fun column member => clear column (List.mem_cons_of_mem _ member)
    rw [List.map_cons, TableBody.ofClauses, first, others]
    cases clause with
    | column clause => rfl
    | key clause => rfl

end Written

end Ddl
