import Ddl.Proofs.Written.Layout

/-! The normal form of written tokens has one space wherever white space is written. -/

namespace Ddl

/-- Nothing is left out of a text in which no line comment begins. -/
theorem LineComment.drop_eq_self {text : Text} (absent : ¬['-', '-'] <:+: text) :
    drop text = text := by
  rw [drop]
  induction text with
  | nil => rfl
  | cons char rest ih =>
    -- The first character is kept, since it does not begin a comment together with the next one.
    rw [List.infix_cons_iff, not_or] at absent
    have apart : ∀ later, char = '-' → rest = '-' :: later → False := by
      rintro later rfl rfl
      exact absent.1 ⟨later, rfl⟩
    rw [dropFrom, ih absent.2]
    exact apart

/-- Nothing is left out of a text in which no block comment begins. -/
theorem BlockComment.drop_eq_self {text : Text} (absent : ¬['/', '*'] <:+: text) :
    drop text = text := by
  rw [drop]
  induction text with
  | nil => rfl
  | cons char rest ih =>
    -- The first character is kept for the same reason.
    rw [List.infix_cons_iff, not_or] at absent
    have apart : ∀ later, char = '/' → rest = '*' :: later → False := by
      rintro later rfl rfl
      exact absent.1 ⟨later, rfl⟩
    rw [dropFrom, ih absent.2]
    exact apart

namespace Text

variable {space word text rest : Text}

/-- All characters of a blank text are white space. -/
theorem isSpace_of_isBlank (blank : space.isBlank = true) {char : Char} (member : char ∈ space) :
    isSpace char = true :=
  List.all_eq_true.mp blank char member

/-- Behind white space a blank text is left out. -/
theorem collapseFrom_blank (blank : space.isBlank = true) :
    collapseFrom true (space ++ rest) = collapseFrom true rest := by
  -- Each character of it is left out as one that follows white space.
  induction space with
  | nil => rfl
  | cons char later ih =>
    rw [isBlank, List.all_cons, Bool.and_eq_true] at blank
    simpa [collapseFrom, blank.1] using ih blank.2

/-- A run of white space becomes a single space. -/
theorem collapseFrom_gap (blank : space.isBlank = true) (present : space ≠ []) :
    collapseFrom false (space ++ rest) = ' ' :: collapseFrom true rest := by
  -- The first character becomes the space, and the others follow white space.
  cases space with
  | nil => exact absurd rfl present
  | cons char later =>
    rw [isBlank, List.all_cons, Bool.and_eq_true] at blank
    simp [collapseFrom, blank.1, collapseFrom_blank blank.2]

/-- A word is kept as it is, whatever stands before it. -/
theorem collapseFrom_solid (solid : Solid word) (afterSpace : Bool) :
    collapseFrom afterSpace (word ++ rest) = word ++ collapseFrom false rest := by
  -- After the first character of a word the state is the one in which words go on.
  have stays : ∀ text : Text, (∀ char ∈ text, isSpace char = false) →
      collapseFrom false (text ++ rest) = text ++ collapseFrom false rest := by
    intro text spaceless
    induction text with
    | nil => rfl
    | cons char later ih =>
      rw [List.forall_mem_cons] at spaceless
      simp [collapseFrom, spaceless.1, ih spaceless.2]
  obtain ⟨present, spaceless⟩ := solid
  cases word with
  | nil => exact absurd rfl present
  | cons char later =>
    rw [List.forall_mem_cons] at spaceless
    simp [collapseFrom, spaceless.1, stays later spaceless.2]

/-- A text that neither begins nor ends with white space. -/
structure Tight (text : Text) : Prop where
  head : ∃ char ∈ text.head?, isSpace char = false
  last : ∃ char ∈ text.getLast?, isSpace char = false

/-- A tight text is not empty. -/
theorem Tight.ne_nil (tight : Tight text) : text ≠ [] := by
  rintro rfl
  simpa using tight.head

/-- White space around a text is removed. -/
theorem trim_blank_append {after : Text} (tight : Tight text) (blankBefore : space.isBlank = true)
    (blankAfter : after.isBlank = true) : trim (space ++ (text ++ after)) = text := by
  obtain ⟨head, isHead, headSpaceless⟩ := tight.head
  obtain ⟨last, isLast, lastSpaceless⟩ := tight.last
  -- From the front the removal stops at the first character of the text.
  have front : (space ++ (text ++ after)).dropWhile isSpace = text ++ after := by
    rw [List.dropWhile_append_of_pos fun char => isSpace_of_isBlank blankBefore]
    cases text with
    | nil => simp at isHead
    | cons char later =>
      obtain rfl : char = head := by simpa using isHead
      simp [headSpaceless]
  -- From the back it stops at the last one.
  have back : (text ++ after).reverse.dropWhile isSpace = text.reverse := by
    rw [List.reverse_append, List.dropWhile_append_of_pos fun char member =>
      isSpace_of_isBlank blankAfter (List.mem_reverse.mp member)]
    rw [List.getLast?_eq_head?_reverse] at isLast
    cases reversed : text.reverse with
    | nil => simp [reversed] at isLast
    | cons char later =>
      obtain rfl : char = last := by simpa [reversed] using isLast
      simp [lastSpaceless]
  rw [trim, trimBy, front, trimEndBy, back, List.reverse_reverse]

/-- Nothing is left of a blank text. -/
theorem trim_eq_nil (blank : text.isBlank = true) : trim text = [] := by
  -- All characters are dropped from the front, so that none is left for the back.
  have all : text.dropWhile isSpace = [] :=
    List.dropWhile_eq_nil_iff.mpr fun char => isSpace_of_isBlank blank
  rw [trim, trimBy, all]
  rfl

end Text

/-- A word is tight. -/
theorem Solid.tight {word : Text} (solid : Solid word) : word.Tight where
  -- Neither its first nor its last character is white space.
  head := ⟨word.head solid.present, List.head?_eq_some_head solid.present,
    solid.spaceless _ (List.head_mem _)⟩
  last := ⟨word.getLast solid.present, List.getLast?_eq_some_getLast solid.present,
    solid.spaceless _ (List.getLast_mem _)⟩

namespace Written

/-- The text begins with no character that could complete the beginning of a comment. -/
def BeginsApart (text : Text) : Prop :=
  text.head? ≠ some '-' ∧ text.head? ≠ some '*'

/-- Whether a text begins apart is decided by its front. -/
theorem BeginsApart.append {front : Text} (apart : BeginsApart front) (present : front ≠ [])
    (back : Text) : BeginsApart (front ++ back) := by
  cases front with
  | nil => exact absurd rfl present
  | cons char later => exact apart

/-- The text has no character that could begin a comment. -/
def StaysApart (text : Text) : Prop :=
  '-' ∉ text ∧ '/' ∉ text

/-- Two neighbours are not found in two texts when they do not meet where the texts meet. -/
theorem not_pair_append {first second : Char} {front back : Text}
    (inFront : ¬[first, second] <:+: front) (inBack : ¬[first, second] <:+: back)
    (apart : back.head? ≠ some second ∨ first ∉ front) : ¬[first, second] <:+: front ++ back := by
  intro both
  obtain inside | inside | ⟨left, right, split, ending, beginning⟩ := List.infix_append_iff.mp both
  · exact inFront inside
  · exact inBack inside
  · -- The pair is cut in front of it, inside of it or behind it.
    match left, right, split with
    | [], _, rfl => exact inBack beginning.isInfix
    | [_], [_], rfl =>
      obtain ⟨later, rfl⟩ := beginning
      exact apart.elim (fun other => other rfl) fun absent => absent (ending.subset (by simp))
    | [_, _], [], rfl => exact inFront ending.isInfix

/-- No comment begins in two texts when none begins where they meet. -/
theorem NoComment.append {front back : Text} (isFront : NoComment front) (isBack : NoComment back)
    (apart : BeginsApart back ∨ StaysApart front) : NoComment (front ++ back) :=
  ⟨not_pair_append isFront.line isBack.line (apart.imp And.left And.left),
    not_pair_append isFront.block isBack.block (apart.imp And.right And.right)⟩

/-- A text without the characters that begin comments has none. -/
theorem StaysApart.noComment {text : Text} (apart : StaysApart text) : NoComment text where
  line := fun found => apart.1 (found.subset List.mem_cons_self)
  block := fun found => apart.2 (found.subset List.mem_cons_self)

/-- White space has no character that could begin a comment. -/
theorem StaysApart.of_isBlank {space : Text} (blank : space.isBlank = true) : StaysApart space := by
  constructor <;> intro member
  · exact absurd (Text.isSpace_of_isBlank blank member) (by decide)
  · exact absurd (Text.isSpace_of_isBlank blank member) (by decide)

/-- A single space where there is white space. -/
def oneSpace (space : Text) : Text :=
  if space = [] then [] else [' ']

/-- No space is written where there was none. -/
@[simp] theorem oneSpace_nil : oneSpace [] = [] := rfl

/-- What is written for white space is white space. -/
theorem isBlank_oneSpace (space : Text) : (oneSpace space).isBlank = true := by
  -- It is nothing or one space.
  rw [oneSpace]
  split
  · rfl
  · exact (by decide : Text.isBlank [' '] = true)

/-- The piece with a single space for its white space. -/
def Piece.single (piece : Piece) : Piece :=
  { piece with space := oneSpace piece.space }

/-- A piece that can stand behind every token. -/
structure Piece.Sound (piece : Piece) : Prop where
  blank : piece.space.isBlank = true
  token : IsToken piece.word
  /-- Without white space before it, the token does not go on with a comment. -/
  apart : piece.space = [] → BeginsApart piece.word

variable {piece : Piece} {pieces : List Piece} {first : Text}

/-- No pieces are spelled by nothing. -/
@[simp] theorem spell_nil : spell [] = [] := rfl

/-- Each piece is spelled by its white space and its word. -/
@[simp] theorem spell_cons :
    spell (piece :: pieces) = piece.space ++ (piece.word ++ spell pieces) := by
  simp [spell]

/-- Two lists of pieces are spelled one after the other. -/
@[simp] theorem spell_append (front back : List Piece) :
    spell (front ++ back) = spell front ++ spell back := List.flatMap_append

/-- A sound piece begins apart, with or without white space in front of it. -/
theorem Piece.Sound.beginsApart (sound : piece.Sound) (rest : Text) :
    BeginsApart (piece.space ++ (piece.word ++ rest)) := by
  -- Without white space the word begins, which may stand behind every token.
  cases spaced : piece.space with
  | nil => exact (sound.apart spaced).append sound.token.present rest
  | cons char later =>
    have space : isSpace char = true :=
      Text.isSpace_of_isBlank sound.blank (by rw [spaced]; exact List.mem_cons_self)
    constructor <;> rintro ⟨⟩ <;> exact absurd space (by decide)

/-- Sound pieces are spelled without a comment, also behind a token. -/
theorem noComment_spell (sound : ∀ piece ∈ pieces, piece.Sound) :
    NoComment (spell pieces) ∧ BeginsApart (spell pieces) := by
  induction pieces with
  -- No comment begins in nothing.
  | nil => exact ⟨StaysApart.noComment (by simp [StaysApart]), by simp [BeginsApart]⟩
  | cons piece later ih =>
    rw [List.forall_mem_cons] at sound
    -- A comment could begin at the two places where the white space, the token and the rest meet.
    obtain ⟨noComment, apart⟩ := ih sound.2
    rw [spell_cons]
    have token := sound.1.token.toNoComment.append noComment (.inl apart)
    have space := StaysApart.of_isBlank sound.1.blank
    exact ⟨space.noComment.append token (.inr space), sound.1.beginsApart _⟩

/-- Pieces are collapsed one after another, whatever follows them. -/
theorem collapseFrom_spell_append (sound : ∀ piece ∈ pieces, piece.Sound) (rest : Text) :
    Text.collapseFrom false (spell pieces ++ rest) =
      spell (pieces.map Piece.single) ++ Text.collapseFrom false rest := by
  induction pieces with
  | nil => rfl
  | cons piece later ih =>
    rw [List.forall_mem_cons] at sound
    have solid := sound.1.token.toSolid
    rw [List.map_cons, spell_cons, spell_cons, Piece.single, List.append_assoc, List.append_assoc]
    by_cases spaced : piece.space = []
    · -- Without white space the token goes on from the one before it.
      simp [oneSpace, spaced, Text.collapseFrom_solid solid, ih sound.2]
    · -- White space becomes a single space, which the token follows.
      simp [oneSpace, spaced, Text.collapseFrom_gap sound.1.blank spaced,
        Text.collapseFrom_solid solid, ih sound.2]

/-- Pieces are collapsed to pieces with single spaces. -/
theorem collapseFrom_spell (sound : ∀ piece ∈ pieces, piece.Sound) :
    Text.collapseFrom false (spell pieces) = spell (pieces.map Piece.single) := by
  have alone := collapseFrom_spell_append sound []
  rwa [List.append_nil, Text.collapseFrom, List.append_nil] at alone

/-- A tight text stays tight with sound pieces behind it. -/
theorem tight_append_spell (tight : first.Tight) (sound : ∀ piece ∈ pieces, piece.Sound) :
    (first ++ spell pieces).Tight := by
  induction pieces generalizing first with
  | nil => simpa using tight
  | cons piece later ih =>
    rw [List.forall_mem_cons] at sound
    rw [spell_cons, ← List.append_assoc, ← List.append_assoc]
    -- The text with this piece ends with its token and begins as before.
    refine ih ?_ sound.2
    obtain ⟨head, isHead, spaceless⟩ := tight.head
    refine ⟨⟨head, ?_, spaceless⟩, ?_⟩
    · simp [List.head?_append, Option.mem_def.mp isHead]
    · obtain ⟨last, isLast, lastSpaceless⟩ := sound.1.token.toSolid.tight.last
      exact ⟨last, by simp [List.getLast?_append, Option.mem_def.mp isLast], lastSpaceless⟩

/-- A sound piece stays so with a single space. -/
theorem sound_single (sound : piece.Sound) : piece.single.Sound := by
  refine ⟨isBlank_oneSpace _, sound.token, fun missing => sound.apart ?_⟩
  by_contra present
  simp [Piece.single, oneSpace, present] at missing

/-- The normal form of written tokens has single spaces between them. -/
theorem normalize_spell (token : IsToken first) (sound : ∀ piece ∈ pieces, piece.Sound) :
    normalize (first ++ spell pieces) = first ++ spell (pieces.map Piece.single) := by
  obtain ⟨noComment, apart⟩ := noComment_spell sound
  have whole := token.toNoComment.append noComment (.inl apart)
  have singles : ∀ piece ∈ pieces.map Piece.single, piece.Sound := by
    simpa using fun piece member => sound_single (sound piece member)
  have tight := tight_append_spell token.toSolid.tight singles
  -- Comments are removed first, then white space is collapsed, and last the ends are trimmed.
  rw [normalize, LineComment.drop_eq_self whole.line, BlockComment.drop_eq_self whole.block,
    Text.collapse, Text.collapseFrom_solid token.toSolid, collapseFrom_spell sound]
  have trimmed : Text.trim ([] ++ ((first ++ spell (pieces.map Piece.single)) ++ [])) =
      first ++ spell (pieces.map Piece.single) := Text.trim_blank_append tight rfl rfl
  simpa using trimmed

end Written

end Ddl
