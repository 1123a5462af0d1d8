import Ddl.Proofs.LineEnds.Text
import Ddl.Proofs.Script.Statements

/-! Carriage returns in front of line feeds stay where they are when a script is cut into its
statements. -/

namespace Ddl

open Text (crlf crlf_cons carriage crlf_cons_carriage)

namespace CommentStyle

variable {style : CommentStyle} {first second : Char} {around : Nat} {rest : Text}

/-- White space is no part of a close. -/
theorem solid_of_isClose (closes : style.isClose first second = true) :
    isSpace first = false ∧ isSpace second = false := by
  cases style <;> simp only [isClose, Bool.and_eq_true, beq_iff_eq] at closes <;>
    obtain ⟨rfl, rfl⟩ := closes <;> decide

/-- White space is no part of an opening. -/
theorem solid_of_isOpen (opens : style.isOpen first second = true) :
    isSpace first = false ∧ isSpace second = false := by
  cases style <;> simp only [isOpen, Bool.and_eq_true, beq_iff_eq, reduceCtorEq] at opens <;>
    obtain ⟨rfl, rfl⟩ := opens <;> decide

/-- White space is no part of what closes a comment. -/
theorem isClose_eq_false (blank : isSpace first = true ∨ isSpace second = true) :
    style.isClose first second = false := by
  by_contra closes
  simp [solid_of_isClose (eq_true_of_ne_false closes)] at blank

/-- White space is no part of what opens a comment. -/
theorem isOpen_eq_false (blank : isSpace first = true ∨ isSpace second = true) :
    style.isOpen first second = false := by
  by_contra opens
  simp [solid_of_isOpen (eq_true_of_ne_false opens)] at blank

/-- In front of white space no comment ends, and behind it none begins. -/
theorem split?_cons (blank : isSpace second = true) :
    style.split? around (first :: second :: rest) =
      (style.split? around (second :: rest)).map
        fun (inside, after) => (first :: inside, after) := by
  -- The pair at the beginning has white space in it, and so has the pair behind it.
  rw [split?]
  cases rest with
  | nil => simp [isClose_eq_false (.inr blank), split?]
  | cons third later =>
    simp [isClose_eq_false (.inr blank), isOpen_eq_false (.inl blank)]

/-- A carriage return in front of a line feed belongs to the comment, as the line feed does. -/
theorem split?_carriage (around : Nat) (char : Char) (rest : Text) :
    style.split? around (carriage char ++ char :: rest) =
      (style.split? around (char :: rest)).map fun (inside, after) =>
        (carriage char ++ inside, after) := by
  -- A carriage return is put in front of a line feed, and of nothing else.
  by_cases feed : char = '\n'
  · subst feed
    exact split?_cons (by decide)
  · simp [carriage, feed]

/-- The same comment is found. -/
theorem split?_crlf (around : Nat) (text : Text) : style.split? around (crlf text) =
    (style.split? around text).map (Prod.map crlf crlf) := by
  have feed : isSpace '\n' = true := by decide
  have blank : isSpace '\r' = true := by decide
  -- The signs of comments hold no line feed, so that the cases for both texts go together.
  fun_induction split? style around text with
  | case1 around first second rest closes =>
    -- Neither character of a close is a line feed.
    simp only [Bool.and_eq_true] at closes
    have solid := solid_of_isClose closes.1
    rw [crlf_cons (ne_line_feed solid.1), crlf_cons (ne_line_feed solid.2), split?]
    simp [closes, crlf, ne_line_feed solid.1, ne_line_feed solid.2]
  -- Two characters are left and close no comment, so neither text splits.
  | case2 around first second goesOn =>
    rw [crlf_cons_carriage, split?_carriage]
    by_cases same : second = '\n'
    · subst same
      simp [split?_cons blank, split?, isClose_eq_false (.inl blank)]
    · rw [crlf_cons same, Text.crlf_nil, split?, if_neg goesOn]
      rfl
  -- A comment that opens inside this one opens in both texts, as its signs are no line feeds.
  | case3 around first second goesOn reached third later opens ih =>
    have solid := solid_of_isOpen opens
    rw [crlf_cons_carriage, split?_carriage, crlf_cons (ne_line_feed solid.1),
      crlf_cons (ne_line_feed solid.2), split?, if_neg goesOn]
    simp only [opens, if_true]
    change Option.map _ (Option.map _ (style.split? (reached + 1) _)) = _
    rw [ih]
    cases style.split? (reached + 1) later with
    | none => rfl
    | some found =>
      simp [crlf_cons_carriage first, crlf_cons (ne_line_feed solid.1),
        crlf_cons (ne_line_feed solid.2)]
  | case4 around first second goesOn reached third later same ih =>
    rw [crlf_cons_carriage, split?_carriage]
    have passed : style.split? around (first :: crlf (second :: third :: later)) =
        (style.split? reached (crlf (second :: third :: later))).map fun (inside, after) =>
          (first :: inside, after) := by
      by_cases feedSecond : second = '\n'
      · subst feedSecond
        have stays : reached = around := by simp [reached, isClose_eq_false (.inr feed)]
        rw [Text.crlf_line_feed, split?_cons blank, stays]
      · -- A carriage return in front of the third character begins no comment either.
        obtain ⟨next, rest, begins, closed⟩ : ∃ next rest, crlf (third :: later) = next :: rest ∧
            ¬style.isOpen second next = true := by
          by_cases feedThird : third = '\n'
          · subst feedThird
            exact ⟨_, _, rfl, by simp [isOpen_eq_false (.inr blank)]⟩
          · exact ⟨_, _, crlf_cons feedThird later, same⟩
        rw [crlf_cons feedSecond, begins, split?, if_neg goesOn]
        simp only [closed]
        rfl
    rw [passed, ih]
    cases style.split? reached (second :: third :: later) with
    | none => rfl
    | some found => simp [crlf_cons_carriage first]
  -- Fewer than two characters close nothing.
  | case5 text around short =>
    obtain _ | ⟨char, _ | ⟨second, rest⟩⟩ := text
    · rfl
    · rw [crlf_cons_carriage, split?_carriage]
      rfl
    · exact absurd rfl (short _ _ _)

end CommentStyle

namespace Lexeme

variable {mark char : Char} {rest : Text} {lexeme : Lexeme}

/-- The lexeme with its text changed. White space and semicolons have no text of their own. -/
def mapText (change : Text → Text) : Lexeme → Lexeme
  | comment text => comment (change text)
  | token text => token (change text)
  | other => other

/-- What becomes of a lexeme. The carriage return in front of a line feed is white space too. -/
def withReturns (lexeme : Lexeme) : List Lexeme :=
  if lexeme = space '\n' then [space '\r', space '\n'] else [lexeme.mapText crlf]

/-- A carriage return in front of a line feed belongs to the quoted text, as the line feed does. -/
theorem splitQuoted_carriage (solid : isSpace mark = false) (char : Char) (rest : Text) :
    splitQuoted mark (carriage char ++ char :: rest) =
      (splitQuoted mark (char :: rest)).map fun (inside, after) =>
        (carriage char ++ inside, after) := by
  -- The mark is no white space, and no carriage return either.
  by_cases feed : char = '\n'
  · subst feed
    refine splitQuoted_cons_of_ne ?_
    rintro rfl
    exact absurd solid (by decide)
  · have same : splitQuoted mark (char :: rest) =
        (splitQuoted mark (char :: rest)).map fun found => found := by
      cases splitQuoted mark (char :: rest) <;> rfl
    simpa [carriage, feed] using same

/-- The same quoted text is found. -/
theorem splitQuoted_crlf (solid : isSpace mark = false) (text : Text) :
    splitQuoted mark (crlf text) = (splitQuoted mark text).map (Prod.map crlf crlf) := by
  have other := ne_line_feed solid
  have behind : mark ≠ '\r' := by
    rintro rfl
    exact absurd solid (by decide)
  -- Only characters inside of the quotes can be line feeds.
  fun_induction splitQuoted mark text with
  | case1 => rfl
  | case2 =>
    rw [crlf_cons other, Text.crlf_nil, splitQuoted, if_pos rfl]
    simp [Except.map, crlf_cons other]
  | case3 last open_ =>
    rw [crlf_cons_carriage, splitQuoted_carriage solid, Text.crlf_nil, splitQuoted, if_neg open_]
    rfl
  | case4 =>
    rw [crlf_cons other, crlf_cons other, Text.crlf_nil, splitQuoted, if_pos rfl, if_pos rfl,
      if_pos rfl]
    rfl
  -- Two marks stand next to each other in both texts.
  | case5 rest present ih =>
    rw [crlf_cons other, crlf_cons other, splitQuoted, if_pos rfl, if_pos rfl,
      if_neg (by simpa using present), ih]
    cases splitQuoted mark rest <;> simp [Except.map, crlf_cons other]
  | case6 second rest ends =>
    -- No second mark follows, and a carriage return that is put in front of the rest is none.
    have ends : (crlf (second :: rest)).head? ≠ some mark := by
      rw [ne_eq, Text.head?_crlf other behind]
      simpa using ends
    rw [crlf_cons other]
    exact (splitQuoted_doubled ends []).trans (by simp [doubled, Except.map, crlf_cons other])
  | case7 first second rest inside ih =>
    rw [crlf_cons_carriage, splitQuoted_carriage solid, splitQuoted_cons_of_ne inside, ih]
    cases splitQuoted mark (second :: rest) <;> simp [Except.map, crlf_cons_carriage first]

/-- The rest of a line ends where it ended, in front of the carriage return. -/
theorem span_crlf (text : Text) :
    (crlf text).takeWhile (!endsLine ·) = crlf (text.takeWhile (!endsLine ·)) ∧
      (crlf text).dropWhile (!endsLine ·) = crlf (text.dropWhile (!endsLine ·)) := by
  -- The carriage return ends the line when the line feed behind it did.
  have ends : endsLine '\n' = true ∧ endsLine '\r' = true := by decide
  induction text with
  | nil => exact ⟨rfl, rfl⟩
  | cons char rest ih =>
    by_cases feed : char = '\n'
    · subst feed
      simp [ends]
    · cases stops : endsLine char <;> simp [crlf_cons feed, stops, ih]

/-- The same comment is made, with carriage returns in it. -/
theorem ofComment_crlf {opening : Text} (plain : crlf opening = opening) (style : CommentStyle)
    (rest : Text) : ofComment style opening (crlf rest) =
      (ofComment style opening rest).map (Prod.map (mapText crlf) crlf) := by
  rw [ofComment, ofComment, CommentStyle.split?_crlf]
  cases style.split? 0 rest <;> simp [Except.map, mapText, plain]

/-- The same quoted token is made, with carriage returns in it. -/
theorem ofQuote_crlf (solid : isSpace mark = false) (rest : Text) :
    ofQuote mark (crlf rest) = (ofQuote mark rest).map (Prod.map (mapText crlf) crlf) := by
  -- The text behind the mark is empty for both or for neither.
  rw [ofQuote, ofQuote, splitQuoted_crlf solid]
  by_cases empty : rest = []
  · simp [empty, Except.map]
  · rw [if_neg empty, if_neg (by simpa using empty)]
    cases splitQuoted mark rest <;> simp [Except.map, mapText, crlf_cons (ne_line_feed solid)]

/-- The same lexeme is found, unless it is a line feed. -/
theorem next_crlf (other : char ≠ '\n') (rest : Text) :
    next char (crlf rest) = (next char rest).map (Prod.map (mapText crlf) crlf) := by
  -- Each opening is looked for in turn, and none has a line feed in it.
  conv_rhs => unfold next
  split
  case h_2 rest =>
    rw [crlf_cons (by decide), next, (span_crlf rest).1, (span_crlf rest).2]
    simp [Except.map, mapText, crlf_cons]
  case h_4 rest => exact ofComment_crlf rfl .hint rest
  case h_5 rest plain =>
    rw [crlf_cons (by decide), next, ofComment_crlf rfl .plain rest]
    exact Text.absent_crlf ['+'] rfl plain
  case h_6 rest => exact ofComment_crlf rfl .template rest
  case h_9 => exact ofQuote_crlf (by decide) rest
  case h_10 => exact ofQuote_crlf (by decide) rest
  case h_11 semicolon double single line marker hint plain template braces percent =>
    -- An opening that stands here now has stood here before.
    rw [next]
    · split <;> simp [Except.map, mapText, crlf, other]
    · exact semicolon
    · exact double
    · exact single
    · exact fun later same => Text.absent_crlf ['-'] rfl (line · same) later
    · exact fun later same => Text.absent_crlf ['|', '-'] rfl (marker · same) later
    · exact fun later same => Text.absent_crlf ['*', '+'] rfl (hint · same) later
    · exact fun later same => Text.absent_crlf ['*'] rfl (plain · same) later
    · exact fun later same => Text.absent_crlf ['#'] rfl (template · same) later
    · exact fun later same => Text.absent_crlf ['{', '-'] rfl (braces · same) later
    · exact fun later same => Text.absent_crlf ['%', '-'] rfl (percent · same) later
  all_goals rfl

/-- A line feed is white space. -/
theorem next_line_feed (rest : Text) : next '\n' rest = .ok (space '\n', rest) := by
  have feed : isSpace '\n' = true := by decide
  simp [next, feed]

/-- The same lexemes are found, or the same fault. -/
theorem scan_crlf (text : Text) :
    scan (crlf text) = (scan text).map (List.flatMap withReturns) := by
  -- A line feed becomes two lexemes, and each other lexeme stays one.
  induction text using scan.induct with
  | case1 => simp [Except.map]
  | case2 char rest fault found =>
    have other : char ≠ '\n' := by
      rintro rfl
      simp [next_line_feed] at found
    rw [crlf_cons other, scan_cons, scan_cons, next_crlf other, found]
    rfl
  | case3 char rest lexeme after found ih =>
    by_cases feed : char = '\n'
    · subst feed
      rw [next_line_feed, Except.ok.injEq, Prod.mk.injEq] at found
      obtain ⟨rfl, rfl⟩ := found
      have blank : isSpace '\n' = true ∧ isSpace '\r' = true := by decide
      rw [Text.crlf_line_feed, scan_cons_space blank.1, scan_cons_space blank.2,
        scan_cons_space blank.1, ih]
      cases scan rest <;> simp [Except.map, withReturns]
    · -- No other lexeme begins with a line feed.
      have solid : lexeme ≠ space '\n' := by
        rintro rfl
        obtain ⟨more, begins, -⟩ := text_of_next found
        exact feed (List.cons.inj begins).1.symm
      rw [crlf_cons feed, scan_cons, scan_cons, next_crlf feed, found]
      simp only [Except.map, Prod.map]
      rw [ih]
      cases scan after <;> simp [Except.map, withReturns, solid]

/-- The lexemes that a lexeme becomes are written with carriage returns. -/
theorem text_withReturns (lexeme : Lexeme) :
    (withReturns lexeme).flatMap text = crlf lexeme.text := by
  -- Only a line feed becomes more than one lexeme.
  unfold withReturns
  split
  · rename_i feed
    rw [feed]
    rfl
  · rename_i other
    cases lexeme with
    | space char =>
      have solid : char ≠ '\n' := fun same => other (congrArg space same)
      simp [mapText, text, crlf_cons solid]
    | semicolon => rfl
    | comment | token => simp [mapText, text]

/-- A lexeme becomes a token when it was one. -/
theorem any_isToken_withReturns (lexeme : Lexeme) :
    (withReturns lexeme).any isToken = lexeme.isToken := by
  -- White space becomes white space, and the others keep their kind.
  unfold withReturns
  split
  · rename_i feed
    rw [feed]
    rfl
  · cases lexeme <;> rfl

end Lexeme

namespace Script

open Lexeme

/-- The chunks of a script keep their places. -/
theorem chunks_withReturns (lexemes : List Lexeme) :
    chunks (lexemes.flatMap withReturns) = (chunks lexemes).map (List.flatMap withReturns) := by
  -- Semicolons stay semicolons, and no other lexeme becomes one.
  refine Separated.parts_flatMap (fun lexeme separated => ?_) (fun lexeme plain => ?_) lexemes
  · obtain rfl := eq_of_beq separated
    exact ⟨semicolon, rfl, rfl⟩
  · intro other member
    unfold withReturns at member
    split at member
    · rw [List.mem_cons, List.mem_singleton] at member
      rcases member with rfl | rfl <;> decide
    · rw [List.mem_singleton.mp member]
      cases lexeme with
      | semicolon => exact absurd plain (by decide)
      | space | comment | token => rfl

/-- A chunk holds the same statement, with carriage returns. -/
theorem statement?_withReturns (chunk : List Lexeme) :
    statement? (chunk.flatMap withReturns) = (statement? chunk).map crlf := by
  -- The chunk has tokens as before, and is trimmed to the same text.
  have token : (chunk.flatMap withReturns).any isToken = chunk.any isToken := by
    rw [List.any_flatMap]
    simp only [any_isToken_withReturns]
  have same : (chunk.flatMap withReturns).flatMap Lexeme.text =
      crlf (chunk.flatMap Lexeme.text) := by
    rw [List.flatMap_assoc]
    simp only [text_withReturns]
    exact List.flatMap_assoc.symm
  rw [statement?, statement?, token, same, Text.trim_crlf]
  split <;> rfl

/-- A script with carriage returns in front of its line feeds is cut at the same places, or it
fails too. -/
theorem statements_crlf (script : Text) :
    ((∃ error, statements (crlf script) = .error error) ↔
        ∃ error, statements script = .error error) ∧
      ∀ found, statements script = .ok found →
        statements (crlf script) = .ok (found.map crlf) := by
  -- The scan fails for both texts or for neither, and else the chunks are changed one by one.
  refine ⟨?_, fun found split => ?_⟩
  · rw [statements_eq_error_iff, statements_eq_error_iff, scan_crlf]
    cases scan script <;> simp [Except.map]
  · obtain ⟨lexemes, scanned, rfl⟩ := statements_eq_ok_iff.mp split
    refine statements_eq_ok_iff.mpr ⟨_, by rw [scan_crlf, scanned]; rfl, ?_⟩
    rw [chunks_withReturns, List.filterMap_map, List.map_filterMap]
    congr 1
    funext chunk
    exact statement?_withReturns chunk

end Script

end Ddl
