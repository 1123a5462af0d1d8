import Ddl.Proofs.Script.Places
import Ddl.Proofs.Script.Statements
import Mathlib.Data.List.Basic

/-! A script is cut at its semicolons outside of quoted literals and comments and nowhere else, and
its statements are what the cuts leave, without the chunks of white space and comments. -/

namespace Ddl

namespace Script

open Lexeme

variable {script text after : Text} {place start : Nat} {char : Char} {lexeme : Lexeme}
  {lexemes front back : List Lexeme}

/-- A text of white space and comments. -/
def Idle (text : Text) : Prop :=
  ∀ place char, text[place]? = some char → isSpace char = true ∨ InComment text place

/-- A place where chunks that are joined by semicolons meet. -/
def Meet (chunks : List Text) (place : Nat) : Prop :=
  ∃ before after, before ≠ [] ∧ after ≠ [] ∧ chunks = before ++ after ∧
    place = (Text.join [';'] before).length

/-- Behind the first lexemes stands what the others are written as. -/
theorem drop_front (front back : List Lexeme) :
    ((front ++ back).flatMap Lexeme.text).drop (front.flatMap Lexeme.text).length =
      back.flatMap Lexeme.text := by
  rw [List.flatMap_append, List.drop_left]

/-- The place behind the first ones of lexemes that fit is reached. -/
theorem reached_of_fits (fits : Fits (front ++ back)) :
    Reached ((front ++ back).flatMap Lexeme.text) (front.flatMap Lexeme.text).length := by
  have behind := Reached.start.append fits rfl
  rwa [Nat.zero_add] at behind

/-- Every place lies in one of the lexemes that make up a text. -/
theorem exists_lexeme_at (inside : place < (lexemes.flatMap Lexeme.text).length) :
    ∃ front lexeme back, lexemes = front ++ lexeme :: back ∧
      (front.flatMap Lexeme.text).length ≤ place ∧
      place < (front.flatMap Lexeme.text).length + lexeme.text.length := by
  -- The place lies in the first lexeme, or it is counted from its end.
  induction lexemes generalizing place with
  | nil => simp at inside
  | cons lexeme later ih =>
    rw [List.flatMap_cons, List.length_append] at inside
    by_cases here : place < lexeme.text.length
    · exact ⟨[], lexeme, later, rfl, Nat.zero_le _, by simpa using here⟩
    · have behind : place - lexeme.text.length < (later.flatMap Lexeme.text).length := by omega
      obtain ⟨front, other, back, rfl, low, high⟩ := ih behind
      refine ⟨lexeme :: front, other, back, rfl, ?_, ?_⟩
      · rw [List.flatMap_cons, List.length_append]
        omega
      · rw [List.flatMap_cons, List.length_append]
        omega

/-- What covers a place is the lexeme in which it lies. -/
theorem Covered.eq_lexeme {Kind : Text → Text → Prop} {toLexeme : Text → Lexeme}
    (known : ∀ piece after, Kind piece after → (toLexeme piece).Stands after ∧
      (toLexeme piece).text = piece)
    (covered : Covered Kind script place) (reached : Reached script start)
    (stands : lexeme.Stands after) (here : script.drop start = lexeme.text ++ after)
    (low : start ≤ place) (high : place < start + lexeme.text.length) :
    Kind lexeme.text after ∧ lexeme = toLexeme lexeme.text := by
  obtain ⟨begun, piece, rest, reached', here', kind, low', high'⟩ := covered
  obtain ⟨stands', text⟩ := known piece rest kind
  rw [← text] at here' high'
  -- Neither of the two begins inside of the other one.
  have first := reached'.apart reached stands here
  have second := reached.apart reached' stands' here'
  obtain rfl : begun = start := by omega
  obtain ⟨rfl, rfl⟩ := stands.unique stands' (here.symm.trans here')
  rw [text]
  exact ⟨kind, rfl⟩

/-- A lexeme that covers a place in a comment is the comment. -/
theorem InComment.eq_comment (inside : InComment script place) (reached : Reached script start)
    (stands : lexeme.Stands after) (here : script.drop start = lexeme.text ++ after)
    (low : start ≤ place) (high : place < start + lexeme.text.length) :
    IsComment lexeme.text after ∧ lexeme = .comment lexeme.text :=
  Covered.eq_lexeme (fun _ _ isComment => ⟨.comment isComment, rfl⟩) inside reached stands here low
    high

/-- A lexeme that covers a place in a literal is the literal. -/
theorem InLiteral.eq_token (inside : InLiteral script place) (reached : Reached script start)
    (stands : lexeme.Stands after) (here : script.drop start = lexeme.text ++ after)
    (low : start ≤ place) (high : place < start + lexeme.text.length) :
    IsLiteral lexeme.text after ∧ lexeme = .token lexeme.text :=
  Covered.eq_lexeme (fun _ _ isLiteral => ⟨.literal isLiteral, rfl⟩) inside reached stands here low
    high

/-- The character at a place is the one with which what stands there begins. -/
theorem getElem?_of_drop {more : Text} (here : script.drop place = char :: more) :
    script[place]? = some char := by
  rw [← List.head?_drop, here]
  rfl

/-- The character at a place in a piece is one of the characters of the piece. -/
theorem mem_text_of_getElem? {piece rest : Text} (here : script.drop start = piece ++ rest)
    (found : script[place]? = some char) (low : start ≤ place)
    (high : place < start + piece.length) : char ∈ piece := by
  obtain ⟨offset, rfl⟩ := Nat.exists_eq_add_of_le low
  rw [← List.getElem?_drop, here, List.getElem?_append_left (by omega)] at found
  exact List.mem_of_getElem? found

/-- A semicolon is a lexeme by itself where it stands outside of quoted literals and comments. -/
theorem eq_semicolon (stands : lexeme.Stands after) (inside : ';' ∈ lexeme.text)
    (noLiteral : ¬IsLiteral lexeme.text after) (noComment : ¬IsComment lexeme.text after) :
    lexeme = .semicolon := by
  -- Of the kinds of lexemes that are left, only one has a semicolon in it.
  cases stands with
  | space blank =>
    obtain rfl : _ = ';' := by simpa [Lexeme.text, eq_comm] using inside
    exact absurd blank (by decide)
  | comment isComment => exact absurd isComment noComment
  | semicolon => rfl
  | literal isLiteral => exact absurd isLiteral noLiteral
  | marker among =>
    have absent : ∀ marker ∈ markers, ';' ∉ marker := by decide
    exact absurd inside (absent _ among)
  | other solid plain =>
    obtain rfl : _ = ';' := by simpa [Lexeme.text, eq_comm] using inside
    exact absurd (by simp) (plain [';'] (by decide))

/-- The semicolons that are lexemes are those outside of quoted literals and comments. -/
theorem semicolon_at_iff (fits : Fits lexemes) :
    (∃ front back, lexemes = front ++ semicolon :: back ∧
      place = (front.flatMap Lexeme.text).length) ↔
      (lexemes.flatMap Lexeme.text)[place]? = some ';' ∧
        ¬InLiteral (lexemes.flatMap Lexeme.text) place ∧
        ¬InComment (lexemes.flatMap Lexeme.text) place := by
  constructor
  · rintro ⟨front, back, rfl, rfl⟩
    -- A semicolon that is a lexeme covers its place, and nothing else does.
    have reached := reached_of_fits fits
    have here := drop_front front (semicolon :: back)
    have stands : semicolon.Stands (back.flatMap Lexeme.text) := .semicolon
    refine ⟨getElem?_of_drop here, fun inside => ?_, fun inside => ?_⟩
    · have other := inside.eq_token reached stands here (Nat.le_refl _) (by simp [Lexeme.text])
      simp at other
    · have other := inside.eq_comment reached stands here (Nat.le_refl _) (by simp [Lexeme.text])
      simp at other
  · rintro ⟨found, noLiteral, noComment⟩
    obtain ⟨inside, char⟩ := List.getElem?_eq_some_iff.mp found
    obtain ⟨front, lexeme, back, rfl, low, high⟩ := exists_lexeme_at inside
    have reached := reached_of_fits fits
    have here := drop_front front (lexeme :: back)
    have stands := fits.right.1
    -- A literal or a comment here would cover the place.
    have isLexeme : lexeme = semicolon := by
      refine eq_semicolon stands ?_ (fun isLiteral => noLiteral ?_) fun isComment => noComment ?_
      · exact mem_text_of_getElem? here found low high
      · exact ⟨_, _, _, reached, here, isLiteral, low, high⟩
      · exact ⟨_, _, _, reached, here, isComment, low, high⟩
    subst isLexeme
    refine ⟨front, back, rfl, ?_⟩
    simp only [Lexeme.text, List.length_singleton] at high
    omega

/-- White space is a lexeme by itself. -/
theorem eq_space_of_blank {more : Text} (stands : lexeme.Stands after)
    (begins : lexeme.text = char :: more) (blank : isSpace char = true) : lexeme = space char := by
  have alone : (space char).Stands (more ++ after) := .space blank
  exact (stands.unique alone (by rw [begins]; rfl)).1

/-- An idle text opens nothing that it does not close. -/
theorem Idle.exists_scan (idle : Idle text) : ∃ lexemes, scan text = .ok lexemes := by
  cases scanned : scan text with
  | ok lexemes => exact ⟨lexemes, rfl⟩
  | error fault =>
    obtain ⟨place, reached, ⟨mark, member, begins⟩, unclosed⟩ := scan_fails_iff.mp ⟨fault, scanned⟩
    obtain ⟨char, more, rfl, solid⟩ := solid_of_mem_marks member
    obtain ⟨rest, here⟩ := begins
    rcases idle place char (getElem?_of_drop here.symm) with blank | inside
    · simp [blank] at solid
    · -- The comment begins at the very place, since the scan comes to both.
      obtain ⟨start, piece, after, begun, covers, isComment, low, high⟩ := inside
      have := reached.apart begun (.comment isComment) covers
      obtain rfl : start = place := by
        simp only [Lexeme.text] at this
        omega
      exact absurd isComment (unclosed piece after covers).1

/-- An idle text has neither tokens nor semicolons. -/
theorem Idle.not_counts (idle : Idle (lexemes.flatMap Lexeme.text)) (fits : Fits lexemes)
    (member : lexeme ∈ lexemes) : lexeme.counts = false := by
  obtain ⟨front, back, rfl⟩ := List.append_of_mem member
  have reached := reached_of_fits fits
  have here := drop_front front (lexeme :: back)
  have stands := fits.right.1
  -- What holds at the first character decides what the lexeme is.
  obtain ⟨char, more, begins⟩ := stands.exists_cons
  have first : ((front ++ lexeme :: back).flatMap Lexeme.text).drop
      (front.flatMap Lexeme.text).length = char :: (more ++ back.flatMap Lexeme.text) := by
    rw [here, List.flatMap_cons, begins, List.cons_append]
  rcases idle _ char (getElem?_of_drop first) with blank | inside
  · rw [eq_space_of_blank stands begins blank]
    rfl
  · rw [(inside.eq_comment reached stands here (Nat.le_refl _) (by simp [begins])).2]
    rfl

/-- A text without tokens and semicolons is idle. -/
theorem idle_of_fits (fits : Fits lexemes) (less : ∀ lexeme ∈ lexemes, lexeme.counts = false) :
    Idle (lexemes.flatMap Lexeme.text) := by
  -- Each place lies in a lexeme, which is white space or a comment.
  intro place char found
  obtain ⟨inside, _⟩ := List.getElem?_eq_some_iff.mp found
  obtain ⟨front, lexeme, back, rfl, low, high⟩ := exists_lexeme_at inside
  have here := drop_front front (lexeme :: back)
  have stands := fits.right.1
  have idle := less lexeme (by simp)
  cases stands with
  | @space other _ blank =>
    obtain rfl : char = other := by
      simpa [Lexeme.text] using mem_text_of_getElem? here found low high
    exact .inl blank
  | comment isComment => exact .inr ⟨_, _, _, reached_of_fits fits, here, isComment, low, high⟩
  | _ => simp [counts] at idle

/-- A text is idle when the scan finds nothing but white space and comments in it. -/
theorem idle_iff : Idle text ↔
    ∃ lexemes, scan text = .ok lexemes ∧ ∀ lexeme ∈ lexemes, lexeme.counts = false := by
  -- The lexemes that are scanned cover the text, so that each of them is seen at its place.
  constructor
  · intro idle
    obtain ⟨lexemes, scanned⟩ := idle.exists_scan
    obtain ⟨fits, rfl⟩ := scan_eq_ok_iff.mp scanned
    exact ⟨lexemes, scanned, fun lexeme => idle.not_counts fits⟩
  · rintro ⟨lexemes, scanned, less⟩
    obtain ⟨fits, rfl⟩ := scan_eq_ok_iff.mp scanned
    exact idle_of_fits fits less

/-- A text is scanned to decide whether it is idle. -/
instance : DecidablePred Idle := fun text =>
  match scanned : scan text with
  | .ok lexemes =>
    decidable_of_iff (∀ lexeme ∈ lexemes, lexeme.counts = false) (by simp [idle_iff, scanned])
  | .error _ => isFalse (by simp [idle_iff, scanned])

/-- A chunk holds a statement unless it is idle. -/
theorem statement?_of_mem_chunks (scanned : scan script = .ok lexemes) {chunk : List Lexeme}
    (member : chunk ∈ chunks lexemes) : statement? chunk =
      if Idle (chunk.flatMap Lexeme.text) then none
      else some (Text.trim (chunk.flatMap Lexeme.text)) := by
  -- A chunk is a text that is scanned to the same lexemes alone.
  obtain ⟨alone, single⟩ := scan_chunk scanned member
  have token : chunk.any isToken = true ↔ ¬Idle (chunk.flatMap Lexeme.text) := by
    rw [idle_iff, alone]
    have same : ∀ lexeme ∈ chunk, lexeme.isToken = lexeme.counts := by
      intro lexeme inside
      cases lexeme with
      | semicolon => exact absurd inside single
      | _ => rfl
    simpa using exists_congr fun lexeme => and_congr_right fun inside => by rw [same lexeme inside]
  simp only [statement?, token, ite_not]

/-- The statements of a script are its chunks that are not idle, trimmed. -/
theorem filterMap_statement? (scanned : scan script = .ok lexemes) :
    (chunks lexemes).filterMap statement? =
      (((chunks lexemes).map (·.flatMap Lexeme.text)).filter (¬Idle ·)).map Text.trim := by
  -- The idle chunks are left out before the others are trimmed, or with them.
  rw [List.filterMap_congr fun chunk member => statement?_of_mem_chunks scanned member,
    List.filter_map, List.map_map, ← List.filterMap_eq_map, List.filterMap_filter]
  congr 1
  funext chunk
  by_cases idle : Idle (chunk.flatMap Lexeme.text) <;> simp [idle]

/-- Each script has a chunk. -/
theorem chunks_ne_nil (lexemes : List Lexeme) : chunks lexemes ≠ [] := by
  simp [chunks, Separated.parts]

/-- The chunks of a script that are joined by semicolons are the script. -/
theorem join_chunks (lexemes : List Lexeme) :
    Text.join [';'] ((chunks lexemes).map (·.flatMap Lexeme.text)) =
      lexemes.flatMap Lexeme.text := by
  -- Each chunk but the last one is followed by the semicolon that ended it.
  induction lexemes using Separated.induction_on_parts (· == semicolon) with
  | plain lexemes plain =>
    have single : semicolon ∉ lexemes := fun inside => by simpa using plain _ inside
    rw [chunks_eq_singleton single]
    rfl
  | cut front lexeme back plain separator ih =>
    obtain rfl : lexeme = semicolon := by simpa using separator
    have single : semicolon ∉ front := fun inside => by simpa using plain _ inside
    rw [chunks_append, chunks_eq_singleton single, List.singleton_append, List.map_cons,
      Text.join_cons (by simp [chunks_ne_nil]), ih]
    simp [Lexeme.text]

/-- Chunks meet at the semicolons that are lexemes. -/
theorem meet_iff : Meet ((chunks lexemes).map (·.flatMap Lexeme.text)) place ↔
    ∃ front back, lexemes = front ++ semicolon :: back ∧
      place = (front.flatMap Lexeme.text).length := by
  -- The chunks in front are joined to the text in front of the semicolon.
  constructor
  · rintro ⟨before, after, presentBefore, presentAfter, both, rfl⟩
    obtain ⟨earlier, later, split, rfl, rfl⟩ := List.map_eq_append_iff.mp both
    obtain ⟨front, lexeme, back, rfl, separator, rfl, rfl⟩ :=
      Separated.exists_separator (by simpa using presentBefore) (by simpa using presentAfter) split
    obtain rfl : lexeme = semicolon := by simpa using separator
    exact ⟨front, back, rfl, congrArg List.length (join_chunks front)⟩
  · rintro ⟨front, back, rfl, rfl⟩
    refine ⟨(chunks front).map (·.flatMap Lexeme.text), (chunks back).map (·.flatMap Lexeme.text),
      by simp [chunks_ne_nil], by simp [chunks_ne_nil], ?_, ?_⟩
    · rw [chunks_append, List.map_append]
    · rw [join_chunks]

/-- What is not idle has more than white space in it. -/
theorem tight_trim_of_not_idle (busy : ¬Idle text) : text.trim.Tight := by
  -- A text of white space would be idle.
  refine Text.tight_trim fun empty => busy fun place char found => .inl ?_
  obtain ⟨before, after, whole, blankBefore, blankAfter⟩ := Text.exists_trim text
  have blank : text.isBlank = true := by
    rw [whole, empty, Text.isBlank, List.all_append, Bool.and_eq_true]
    exact ⟨blankBefore, blankAfter⟩
  exact Text.isSpace_of_isBlank blank (List.mem_of_getElem? found)

/-- A script that can be split is made of chunks that meet at its semicolons outside of quoted
literals and comments, and its statements are the trimmed ones of the chunks that are not idle. A
script cannot be split exactly when the scan comes to a literal or a comment that is never closed,
and then it is said to be unreadable. -/
theorem statements_cut_at_top_level (script : Text) :
    (∀ found, statements script = .ok found → ∃ chunks, chunks ≠ [] ∧
      Text.join [';'] chunks = script ∧
      (∀ place, Meet chunks place ↔
        script[place]? = some ';' ∧ ¬InLiteral script place ∧ ¬InComment script place) ∧
      found = (chunks.filter (¬Idle ·)).map Text.trim ∧
      ∀ statement ∈ found, statement ≠ [] ∧ statement.Tight) ∧
    ((∃ error, statements script = .error error) ↔
      ∃ place, Reached script place ∧ Unclosed (script.drop place)) ∧
    ∀ error, statements script = .error error → ∃ excerpt, error = .unreadable excerpt := by
  refine ⟨fun found split => ?_, statements_eq_error_iff.trans scan_fails_iff,
    fun error failed => ?_⟩
  · obtain ⟨lexemes, scanned, rfl⟩ := statements_eq_ok_iff.mp split
    obtain ⟨fits, rfl⟩ := scan_eq_ok_iff.mp scanned
    refine ⟨(chunks lexemes).map (·.flatMap Lexeme.text), by simp [chunks_ne_nil],
      join_chunks lexemes, fun place => meet_iff.trans (semicolon_at_iff fits),
      filterMap_statement? scanned, fun statement member => ?_⟩
    -- A statement is what is left of a chunk that is not idle.
    rw [filterMap_statement? scanned] at member
    obtain ⟨chunk, busy, rfl⟩ := List.mem_map.mp member
    have tight := tight_trim_of_not_idle (by simpa using (List.mem_filter.mp busy).2)
    exact ⟨tight.ne_nil, tight⟩
  · -- Nothing but the scan fails.
    unfold statements at failed
    split at failed
    · cases failed
    · exact ⟨_, (Except.error.inj failed).symm⟩

/-- Semicolons in comments and in a literal cut nothing, and a script fails when the scan comes to a
literal that is left open. -/
theorem statements_cut_at_top_level_literal :
    (∃ chunks, Text.join [';'] chunks = "a /*;*/; -- ;\n; ';'".toList ∧
      statements "a /*;*/; -- ;\n; ';'".toList = .ok ((chunks.filter (¬Idle ·)).map Text.trim) ∧
      (chunks.filter (¬Idle ·)).map Text.trim = ["a /*;*/".toList, "';'".toList]) ∧
    (∃ place, Reached "b; '".toList place ∧ Unclosed ("b; '".toList.drop place)) ∧
    ∃ excerpt, statements "b; '".toList = .error (.unreadable excerpt) := by
  have split : statements "a /*;*/; -- ;\n; ';'".toList =
      .ok ["a /*;*/".toList, "';'".toList] := by cbv
  have failed : statements "b; '".toList = .error (.unreadable "b; ".toList) := by cbv
  obtain ⟨chunks, _, joined, _, found, _⟩ := (statements_cut_at_top_level _).1 _ split
  obtain ⟨-, fails, reported⟩ := statements_cut_at_top_level "b; '".toList
  obtain ⟨excerpt, said⟩ := reported _ failed
  exact ⟨⟨chunks, joined, found ▸ split, found.symm⟩, fails.mp ⟨_, failed⟩, excerpt, said ▸ failed⟩

end Script

end Ddl
