import Ddl.Proofs.Grammar.Clauses
import Ddl.Proofs.Written.References

/-! A foreign key clause is read as it is meant, whatever the names in it are. -/

namespace Ddl

namespace Written

open Pattern

variable (clause : KeyClause)

/-- The words of a foreign key clause have no white space. -/
theorem KeyClause.words_solid : ∀ word ∈ clause.constraint.text :: clause.name.text ::
    clause.foreign.text :: (clause.padding.join clause.key.text clause.column.enclosed ++
      clause.references.text :: clause.reference.words), Solid word := by
  -- Each of them is a keyword, a name or a name in parentheses.
  simp only [List.forall_mem_cons, List.forall_mem_append]
  exact ⟨clause.constraint.solid, clause.name.isPlain.token.toSolid, clause.foreign.solid,
    clause.padding.join_solid clause.key.solid clause.column.enclosed_solid,
    clause.references.solid, clause.reference.words_solid⟩

/-- A keyword in any case is one of the texts that patterns take for it. -/
def Keyword.spelling {name : String} (keyword : Keyword name) : Grammar.Spelling name :=
  ⟨keyword.text, keyword.isKeyword, keyword.folded⟩

/-- A foreign key opens with its keywords and the name between them. -/
theorem opens_keywords (constraint : Keyword "CONSTRAINT") (name : Name)
    (foreign : Keyword "FOREIGN") (key : Keyword "KEY") (rest : Text) :
    ForeignKeyClause.opens (constraint.text ++ ' ' :: (name.text ++ ' ' ::
      (foreign.text ++ ' ' :: (key.text ++ rest)))) = true := by
  refine Grammar.opens_iff.mpr ⟨⟨constraint.spelling, .of " ", name, .of " ", foreign.spelling,
    .of " ", key.spelling⟩, rest, ?_⟩
  simp [Grammar.KeyOpening.text, Keyword.spelling, Gap.of]

/-- A foreign key clause opens a foreign key. -/
theorem opens_key_normal : ForeignKeyClause.opens clause.normal = true := by
  -- Its four words come first, with single spaces between them.
  obtain ⟨word, more, joined, text⟩ :=
    clause.padding.exists_join clause.key.text clause.column.enclosed
  have opens := opens_keywords clause.constraint clause.name clause.foreign clause.key
    (oneSpace clause.padding.text ++ (clause.column.enclosed ++
      Text.spaced (clause.references.text :: clause.reference.words)))
  rw [← text] at opens
  rw [KeyClause.normal, joined]
  simpa using opens

/-- What stands in a foreign key clause after its keyword. -/
def keyPattern : Pattern :=
  keyword "KEY" ++ (someSpaces ++ enclosedThen
    (spaces ++ (keyword "REFERENCES" ++ (spaces ++ reference))))

/-- The key is matched where its second keyword is written, with the three names as groups. -/
theorem matchStart?_written_key : ∃ found,
    keyPattern.matchStart? (clause.key.text ++ (oneSpace clause.padding.text ++
      (clause.column.enclosed ++ Text.spaced (clause.references.text :: clause.reference.words)))) =
        some found ∧ found.groupText 0 = clause.column.name.text ∧
      found.groupText 1 = clause.reference.table.name.text ∧
      found.groupText 2 = clause.reference.column.name.text := by
  have opening : isSpace '(' = false := by decide
  have outside : Outside .space (clause.column.enclosed ++
      Text.spaced (clause.references.text :: clause.reference.words)) := opening
  obtain ⟨columnStop, column⟩ := firstMatch?_written_enclosed clause.column
    (spaces ++ (keyword "REFERENCES" ++ (spaces ++ reference)))
    (Text.spaced (clause.references.text :: clause.reference.words)) some
  -- The clause ends with its reference, so nothing is left after the match.
  obtain ⟨tableStop, targetStop, target⟩ := firstMatch?_written_reference clause.reference []
    fun after => some ⟨⟨clause.column.name.text ++ columnStop, columnStop⟩ ::
      after.groups, after.rest⟩
  rw [List.append_nil] at target
  refine ⟨⟨[⟨clause.column.name.text ++ columnStop, columnStop⟩,
    ⟨clause.reference.table.name.text ++ tableStop, tableStop⟩,
    ⟨clause.reference.column.name.text ++ targetStop, targetStop⟩], []⟩, ?_, ?_⟩
  -- The pieces are matched one after another, as they are written.
  · rw [keyPattern, matchStart?, firstMatch?_written_keyword,
      firstMatch?_written_padding _ (avoids_enclosedThen opening) outside, column, Text.spaced_cons,
      firstMatch?_spaces_single (clause.references.solid.head _), Reference.words,
      Padding.spaced_join,
      firstMatch?_written_keyword_spaces _ (clause.reference.table.solid.head _), target]
  · simp [Match.groupText]

/-- A foreign key is a keyword, white space and what stands behind it, however these are grouped. -/
theorem search?_body (text : Text) : ForeignKeyClause.body.search? text =
    (keyword "FOREIGN" ++ (spaces ++ keyPattern)).search? text := by
  -- At each place the same pieces are tried one after another.
  refine search?_congr (fun text => ?_) text
  rw [matchStart?, ← firstMatch?_append_empty]
  simp only [ForeignKeyClause.body, firstMatch?_assoc]
  rfl

/-- Nothing is matched where the keyword does not begin. -/
theorem matchStart?_keyPattern_eq_none {text : Text} (other : ¬"KEY".toList <+: text.folded) :
    keyPattern.matchStart? text = none := by
  rw [keyPattern, matchStart?, firstMatch?_keyword, if_neg other]

/-- A foreign key clause is read as the foreign key that it describes. -/
theorem foreignKey?_normal :
    ForeignKeyClause.foreignKey? clause.normal = some clause.foreignKey := by
  obtain ⟨word, more, joined, text⟩ :=
    clause.padding.exists_join clause.key.text clause.column.enclosed
  obtain ⟨found, matched, isColumn, isTable, isTarget⟩ := matchStart?_written_key clause
  rw [← text] at matched
  -- The first keyword does not end with the one that is looked for.
  have notConstraint : ¬"FOREIGN".toList <:+ clause.constraint.text.folded := by
    rw [clause.constraint.folded]
    decide
  have solid := clause.words_solid
  rw [joined] at solid
  rw [ForeignKeyClause.foreignKey?, search?_body, KeyClause.normal, joined]
  simp only [List.cons_append, List.nil_append] at solid ⊢
  rw [search?_spaced (by decide) solid, wordSearch?_cons fun ends => absurd ends notConstraint,
    wordSearch?_cons, wordSearch?_found clause.foreign.suffix matched]
  · simp [KeyClause.foreignKey, Reference.target, isColumn, isTable, isTarget]
  · -- The name can end with the keyword, but the keyword itself comes next and is no other one.
    intro _ second later written
    obtain ⟨rfl, rfl⟩ := List.cons.inj written
    refine matchStart?_keyPattern_eq_none ?_
    rw [Text.folded_append, clause.foreign.folded]
    simp +decide

end Written

end Ddl
