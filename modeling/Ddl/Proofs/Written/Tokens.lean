import Ddl.Proofs.Written.Normal

/-! The tokens of a written statement can stand behind each other, and none of those in a clause
ends it. -/

namespace Ddl

namespace CommaList

variable {depth : Int} {text : Text}

/-- The depth behind two texts is the one to which the second leads from where the first ends. -/
theorem depthAfter?_append (front back : Text) :
    depthAfter? depth (front ++ back) =
      (depthAfter? depth front).bind fun reached => depthAfter? reached back := by
  -- The front is read character by character, and where it leaves the list the rest is not read.
  induction front generalizing depth with
  | nil => rfl
  | cons char later ih =>
    rw [List.cons_append, depthAfter?, depthAfter?]
    split
    · rfl
    · exact ih

/-- Without parentheses the depth stays as it is. -/
theorem depthAfter?_eq_self (flat : '(' ∉ text ∧ ')' ∉ text)
    (inside : depth = 0 → ',' ∉ text) : depthAfter? depth text = some depth := by
  induction text with
  | nil => rfl
  | cons char later ih =>
    simp only [List.mem_cons, not_or] at flat
    have notComma : ¬(char = ',' ∧ depth = 0) := by
      rintro ⟨rfl, zero⟩
      exact inside zero List.mem_cons_self
    -- The character is no parenthesis.
    have same : depth + deepening char = depth := by
      simp [deepening, Ne.symm flat.1.1, Ne.symm flat.2.1]
    rw [depthAfter?, if_neg notComma, same]
    exact ih ⟨flat.1.2, flat.2.2⟩ fun zero member => inside zero (List.mem_cons_of_mem _ member)

/-- Parentheses around a text that has none return to the depth at which they begin. -/
theorem depthAfter?_parentheses (flat : '(' ∉ text ∧ ')' ∉ text) :
    depthAfter? 0 ('(' :: (text ++ [')'])) = some 0 := by
  -- Inside of the parentheses commas do not separate.
  have inner : depthAfter? 1 text = some 1 := depthAfter?_eq_self flat (by simp)
  have opened : depthAfter? 0 ('(' :: (text ++ [')'])) = depthAfter? 1 (text ++ [')']) := by
    simp [depthAfter?, deepening]
  rw [opened, depthAfter?_append, inner]
  rfl

end CommaList

namespace Written

/-- Whether the character stands in names, around them or between them. -/
def isPlain (char : Char) : Bool :=
  isWord char || CharClass.isQuote char || ['(', ')', ',', ';'].contains char

/-- Word characters are plain. -/
theorem isPlain_of_isWord {char : Char} (word : isWord char = true) : isPlain char = true := by
  simp [isPlain, word]

/-- Plain characters are no white space. -/
theorem isSpace_of_isPlain {char : Char} (plain : isPlain char = true) : isSpace char = false := by
  simp only [isPlain, Bool.or_eq_true] at plain
  -- Neither words nor quotes have white space, and the other marks are looked at one by one.
  obtain (word | quote) | mark := plain
  · exact isSpace_of_isWord word
  · exact isSpace_of_isQuote quote
  · have listed : char = '(' ∨ char = ')' ∨ char = ',' ∨ char = ';' := by simpa using mark
    obtain rfl | rfl | rfl | rfl := listed <;> decide

/-- A text of plain characters. -/
structure IsPlain (text : Text) : Prop where
  present : text ≠ []
  plain : ∀ char ∈ text, isPlain char = true

namespace IsPlain

variable {text : Text}

/-- No plain text has a character that could begin a comment. -/
theorem staysApart (isPlain : IsPlain text) : StaysApart text := by
  constructor <;> intro member
  · exact absurd (isPlain.plain _ member) (by decide)
  · exact absurd (isPlain.plain _ member) (by decide)

/-- No plain text begins with a character that could complete the beginning of a comment. -/
theorem beginsApart (isPlain : IsPlain text) : BeginsApart text := by
  constructor <;> intro head
  · exact absurd (isPlain.plain _ (List.mem_of_mem_head? head)) (by decide)
  · exact absurd (isPlain.plain _ (List.mem_of_mem_head? head)) (by decide)

/-- A plain text is a token. -/
theorem token (isPlain : IsPlain text) : IsToken text where
  present := isPlain.present
  spaceless := fun char member => isSpace_of_isPlain (isPlain.plain char member)
  toNoComment := isPlain.staysApart.noComment

/-- A plain text can stand behind every token, with white space in front of it or without. -/
theorem sound (isPlain : IsPlain text) {space : Text} (blank : space.isBlank = true) :
    Piece.Sound ⟨space, text⟩ :=
  ⟨blank, isPlain.token, fun _ => isPlain.beginsApart⟩

end IsPlain

/-- A piece that stands inside of a clause. -/
structure Piece.InClause (piece : Piece) : Prop extends piece.Sound where
  /-- No comma of the token separates clauses, and its parentheses are closed. -/
  level : CommaList.depthAfter? 0 piece.word = some 0

variable {space : Text} {name : String}

/-- A name is plain. -/
theorem Name.isPlain (name : Name) : IsPlain name.text where
  present := name.present
  plain := fun char member => isPlain_of_isWord (List.all_eq_true.mp name.word char member)

/-- Characters that do not stand in words are in no name. -/
theorem Name.not_mem {char : Char} (other : isWord char = false) (name : Name) :
    char ∉ name.text := by
  intro member
  simp [List.all_eq_true.mp name.word char member] at other

/-- Without quotes a name is written as it is. -/
@[simp] theorem QuotedName.text_bare (name : Name) : QuotedName.text ⟨name, .none⟩ = name.text := by
  simp [QuotedName.text, Quotes.mark]

/-- A type without arguments is written like its name. -/
@[simp] theorem TypeName.text_bare (name : Name) : TypeName.text ⟨name, none⟩ = name.text := by
  simp [TypeName.text, TypeName.suffix]

/-- Neither word characters nor quotes have a meaning in lists of clauses. -/
theorem flat_of_word {text : Text}
    (word : ∀ char ∈ text, isWord char = true ∨ CharClass.isQuote char = true) :
    ('(' ∉ text ∧ ')' ∉ text) ∧ ',' ∉ text := by
  -- None of the three characters is of either kind.
  refine ⟨⟨fun member => ?_, fun member => ?_⟩, fun member => ?_⟩
  · exact absurd (word _ member) (by decide)
  · exact absurd (word _ member) (by decide)
  · exact absurd (word _ member) (by decide)

/-- A name stands inside of a clause. -/
theorem Name.inClause (name : Name) (blank : space.isBlank = true) :
    Piece.InClause ⟨space, name.text⟩ where
  toSound := name.isPlain.sound blank
  -- A word has neither parentheses nor commas, so that the depth stays zero.
  level :=
    have flat := flat_of_word fun char member => .inl (List.all_eq_true.mp name.word char member)
    CommaList.depthAfter?_eq_self flat.1 fun _ => flat.2

/-- Without regard to case a keyword is written as it is. -/
theorem Keyword.folded (keyword : Keyword name) : keyword.text.folded = name.toList := by
  -- Every letter of the keyword spells a capital letter, and is folded to it.
  rw [← keyword.spells, Text.folded]
  refine List.map_congr_left fun char member => capitalOf_eq_toUpper ?_
  refine keyword.isKeyword.isUpper ?_
  rw [← keyword.spells]
  exact List.mem_map_of_mem member

/-- A keyword ends with the letters of its name, whatever their case. -/
theorem Keyword.suffix (keyword : Keyword name) : name.toList <:+ keyword.text.folded :=
  keyword.folded ▸ List.suffix_refl _

/-- A keyword has as many characters as its name. -/
theorem Keyword.length (keyword : Keyword name) : keyword.text.length = name.length := by
  rw [← String.length_toList, ← keyword.folded, Text.length_folded]

/-- A keyword could be a name as well. -/
def Keyword.toName (keyword : Keyword name) : Name where
  text := keyword.text
  present := by
    intro empty
    exact keyword.isKeyword.toList_ne_nil (by rw [← keyword.folded, empty, Text.folded_nil])
  word := by
    refine List.all_eq_true.mpr fun char member => isWord_of_capitalOf ?_
    refine keyword.isKeyword.isUpper ?_
    rw [← keyword.folded]
    exact List.mem_map_of_mem member

/-- A keyword is plain. -/
theorem Keyword.isPlain (keyword : Keyword name) : IsPlain keyword.text :=
  keyword.toName.isPlain

/-- A keyword stands inside of a clause. -/
theorem Keyword.inClause (keyword : Keyword name) (blank : space.isBlank = true) :
    Piece.InClause ⟨space, keyword.text⟩ :=
  keyword.toName.inClause blank

/-- The marks around a name are quotes. -/
theorem Quotes.isQuote_of_mem_mark {quotes : Quotes} {char : Char} (member : char ∈ quotes.mark) :
    CharClass.isQuote char = true := by
  cases quotes <;> simp_all [Quotes.mark, CharClass.isQuote]

namespace QuotedName

variable (quoted : QuotedName)

/-- A quoted name has only word characters and quotes. -/
theorem isWord_or_isQuote :
    ∀ char ∈ quoted.text, isWord char = true ∨ CharClass.isQuote char = true := by
  intro char member
  simp only [QuotedName.text, List.mem_append] at member
  -- The characters are those of the marks and those of the name.
  obtain (front | inside) | back := member
  · exact .inr (Quotes.isQuote_of_mem_mark front)
  · exact .inl (List.all_eq_true.mp quoted.name.word char inside)
  · exact .inr (Quotes.isQuote_of_mem_mark back)

/-- A quoted name is plain. -/
theorem isPlain : IsPlain quoted.text where
  present := by simp [QuotedName.text, quoted.name.present]
  plain := fun char member => by
    -- A character belongs either to the name or to the marks around it.
    obtain word | quote := quoted.isWord_or_isQuote char member
    · exact isPlain_of_isWord word
    · simp [Written.isPlain, quote]

/-- A quoted name stands inside of a clause. -/
theorem inClause (blank : space.isBlank = true) : Piece.InClause ⟨space, quoted.text⟩ where
  toSound := quoted.isPlain.sound blank
  -- Quotes do not change the depth either.
  level :=
    have flat := flat_of_word quoted.isWord_or_isQuote
    CommaList.depthAfter?_eq_self flat.1 fun _ => flat.2

/-- A quoted name in parentheses stands inside of a clause. -/
theorem enclosed_inClause (blank : space.isBlank = true) :
    Piece.InClause ⟨space, quoted.enclosed⟩ where
  toSound := by
    -- The parentheses are plain characters like those of the name.
    refine IsPlain.sound ⟨by simp [enclosed], fun char member => ?_⟩ blank
    simp only [enclosed, List.mem_cons, List.mem_append, List.not_mem_nil, or_false] at member
    obtain rfl | inside | rfl := member
    · rfl
    · exact quoted.isPlain.plain char inside
    · rfl
  -- The parentheses close each other, since the name has none.
  level := CommaList.depthAfter?_parentheses
    (flat_of_word quoted.isWord_or_isQuote).1

end QuotedName

/-- A type stands inside of a clause, with arguments or without. -/
theorem TypeName.inClause (type : TypeName) (blank : space.isBlank = true) :
    Piece.InClause ⟨space, type.text⟩ := by
  have bare := type.name.inClause blank
  -- A type without arguments is its name.
  obtain ⟨name, _ | arguments⟩ := type
  · simpa [TypeName.text, TypeName.suffix] using bare
  · have written : TypeName.text ⟨name, some arguments⟩ =
        name.text ++ '(' :: (arguments.text ++ [')']) := rfl
    have opening : StaysApart ['('] := by simp [StaysApart]
    have closing : StaysApart [')'] := by simp [StaysApart]
    -- No comment begins where the arguments meet their parentheses.
    have inner := arguments.token.toNoComment.append closing.noComment
      (.inl (by simp [BeginsApart]))
    have suffix := opening.noComment.append inner (.inr opening)
    rw [written]
    refine ⟨⟨blank, ⟨⟨by simp, ?_⟩, ?_⟩, fun _ => ?_⟩, ?_⟩
    · -- White space is in none of the name, the arguments and the parentheses.
      intro char member
      simp only [List.mem_append, List.mem_cons, List.not_mem_nil, or_false] at member
      obtain front | rfl | inside | rfl := member
      · exact bare.token.spaceless char front
      · decide
      · exact arguments.token.spaceless char inside
      · decide
    · exact name.isPlain.staysApart.noComment.append suffix (.inl (by simp [BeginsApart]))
    · exact name.isPlain.beginsApart.append name.present _
    · -- The commas between arguments are not those between clauses.
      have level : CommaList.depthAfter? 0 name.text = some 0 := bare.level
      rw [CommaList.depthAfter?_append, level]
      exact CommaList.depthAfter?_parentheses arguments.flat

/-- The value of a default stands inside of a clause, behind white space. -/
theorem Value.inClause (value : Value) (gap : Gap) : Piece.InClause ⟨gap.text, value.text⟩ where
  blank := gap.blank
  token := value.token
  -- There is white space in front of it, so that the token before it does not matter.
  apart := fun missing => absurd missing gap.present
  level := value.enclosed

/-- A keyword has no white space. -/
theorem Keyword.solid {name : String} (keyword : Keyword name) : Solid keyword.text :=
  keyword.isPlain.token.toSolid

/-- A quoted name has no white space. -/
theorem QuotedName.solid (quoted : QuotedName) : Solid quoted.text :=
  quoted.isPlain.token.toSolid

/-- A quoted name in parentheses has no white space. -/
theorem QuotedName.enclosed_solid (quoted : QuotedName) : Solid quoted.enclosed :=
  (quoted.enclosed_inClause (rfl : Text.isBlank [] = true)).token.toSolid

/-- A type has no white space, whether or not it has arguments. -/
theorem TypeName.solid (type : TypeName) : Solid type.text :=
  (type.inClause (rfl : Text.isBlank [] = true)).token.toSolid

/-- All pieces of a reference stand inside of a clause. -/
theorem Reference.inClause (reference : Reference) (blank : space.isBlank = true) :
    ∀ piece ∈ reference.pieces space, piece.InClause := by
  simp only [Reference.pieces, List.forall_mem_cons]
  exact ⟨reference.table.inClause blank,
    reference.column.enclosed_inClause reference.padding.blank, by simp⟩

/-- All pieces of an option stand inside of a clause. -/
theorem ColumnOption.inClause (option : ColumnOption) (blank : space.isBlank = true) :
    ∀ piece ∈ option.pieces space, piece.InClause := by
  -- Each kind of option is a keyword with what belongs to it, piece by piece.
  cases option with
  | notNull not gap null =>
    simp only [ColumnOption.pieces, List.forall_mem_cons]
    exact ⟨not.inClause blank, null.inClause gap.blank, by simp⟩
  | primaryKey primary gap key =>
    simp only [ColumnOption.pieces, List.forall_mem_cons]
    exact ⟨primary.inClause blank, key.inClause gap.blank, by simp⟩
  | unique keyword =>
    simp only [ColumnOption.pieces, List.forall_mem_cons]
    exact ⟨keyword.inClause blank, by simp⟩
  | default keyword gap value =>
    simp only [ColumnOption.pieces, List.forall_mem_cons]
    exact ⟨keyword.inClause blank, value.inClause gap, by simp⟩
  | references keyword gap reference =>
    simp only [ColumnOption.pieces, List.forall_mem_cons]
    exact ⟨keyword.inClause blank, reference.inClause gap.blank⟩

/-- All pieces of a column clause stand inside of it. -/
theorem ColumnClause.inClause (clause : ColumnClause) (blank : space.isBlank = true) :
    ∀ piece ∈ clause.pieces space, piece.InClause := by
  simp only [ColumnClause.pieces, List.forall_mem_cons, List.mem_flatMap]
  refine ⟨clause.name.inClause blank, clause.type.inClause clause.gap.blank, ?_⟩
  -- Every option brings the white space before it along.
  rintro piece ⟨option, -, member⟩
  exact option.2.inClause option.1.blank piece member

/-- All pieces of a foreign key clause stand inside of it. -/
theorem KeyClause.inClause (clause : KeyClause) (blank : space.isBlank = true) :
    ∀ piece ∈ clause.pieces space, piece.InClause := by
  -- The pieces are looked at in the order in which they are written.
  simp only [KeyClause.pieces, List.forall_mem_append, List.forall_mem_cons]
  exact ⟨⟨clause.constraint.inClause blank, clause.name.inClause clause.nameGap.blank,
    clause.foreign.inClause clause.foreignGap.blank, clause.key.inClause clause.keyGap.blank,
    clause.column.enclosed_inClause clause.padding.blank,
    clause.references.inClause clause.referencesGap.blank, by simp⟩,
    clause.reference.inClause clause.gap.blank⟩

/-- All pieces of a clause stand inside of it. -/
theorem Clause.inClause (clause : Clause) (blank : space.isBlank = true) :
    ∀ piece ∈ clause.pieces space, piece.InClause := by
  cases clause with
  | column clause => exact clause.inClause blank
  | key clause => exact clause.inClause blank

end Written

end Ddl
