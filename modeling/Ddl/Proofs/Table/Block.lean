import Ddl.Proofs.Pattern.Described
import Ddl.Proofs.Pattern.Words
import Ddl.Table.Statement
import Mathlib.Data.Nat.Find

/-! The block of a table reaches from the first parenthesis that opens to the last one that closes,
and there is no other block when nothing stands between these two. -/

namespace Ddl

namespace Text

variable {text : Text} {wanted : Char} {start place other : Nat}

/-- The character stands at a place, and at no earlier one from the start on. -/
structure FirstAt (text : Text) (wanted : Char) (start place : Nat) : Prop where
  fromStart : start ≤ place
  stands : text[place]? = some wanted
  isFirst : ∀ earlier, start ≤ earlier → earlier < place → text[earlier]? ≠ some wanted

/-- The character stands at a place, and at no later one. -/
structure LastAt (text : Text) (wanted : Char) (place : Nat) : Prop where
  stands : text[place]? = some wanted
  isLast : ∀ later, place < later → text[later]? ≠ some wanted

/-- What stands between two places, without the characters at the places themselves. -/
def between (text : Text) (opening closing : Nat) : Text :=
  (text.take closing).drop (opening + 1)

/-- No place from the start on is in front of the first one. -/
theorem FirstAt.le (first : FirstAt text wanted start place) (behind : start ≤ other)
    (stands : text[other]? = some wanted) : place ≤ other := by
  apply Nat.le_of_not_lt
  intro before
  exact first.isFirst other behind before stands

/-- No place is behind the last one. -/
theorem LastAt.le (last : LastAt text wanted place) (stands : text[other]? = some wanted) :
    other ≤ place := by
  apply Nat.le_of_not_lt
  intro after
  exact last.isLast other after stands

/-- What stands between two places stands in the text. -/
theorem infix_between (text : Text) (opening closing : Nat) :
    text.between opening closing <:+: text :=
  (List.drop_suffix _ _).isInfix.trans (List.take_prefix _ _).isInfix

/-- A character that stands behind the start has a first place there. -/
theorem exists_firstAt (behind : start ≤ place) (stands : text[place]? = some wanted) :
    ∃ first, FirstAt text wanted start first := by
  -- The first place is the least one that is not in front of the start.
  have some : ∃ place, start ≤ place ∧ text[place]? = Option.some wanted := ⟨place, behind, stands⟩
  obtain ⟨fromStart, isThere⟩ := Nat.find_spec some
  refine ⟨Nat.find some, fromStart, isThere, fun earlier behind before there => ?_⟩
  exact Nat.find_min some before ⟨behind, there⟩

/-- A character that stands in a text has a last place in it. -/
theorem exists_lastAt (stands : text[place]? = some wanted) : ∃ last, LastAt text wanted last := by
  -- The place is sought behind the first character before it is taken itself.
  induction text generalizing place with
  | nil => cases stands
  | cons char rest ih =>
    by_cases member : wanted ∈ rest
    · -- The last place is behind the first character, where the character still stands.
      obtain ⟨index, inside⟩ := List.mem_iff_getElem?.mp member
      obtain ⟨last, isThere, isLast⟩ := ih inside
      refine ⟨last + 1, isThere, fun later behind => ?_⟩
      obtain ⟨later, rfl⟩ := Nat.exists_eq_succ_of_ne_zero (Nat.ne_zero_of_lt behind)
      exact isLast later (Nat.lt_of_succ_lt_succ behind)
    · have absent : ∀ index, rest[index]? ≠ some wanted := fun index inside =>
        member (List.mem_of_getElem? inside)
      -- Only the first place is left.
      cases place with
      | succ place => exact absurd stands (absent place)
      | zero =>
        refine ⟨0, stands, fun later behind => ?_⟩
        obtain ⟨later, rfl⟩ := Nat.exists_eq_succ_of_ne_zero (Nat.ne_zero_of_lt behind)
        exact absent later

end Text

namespace TableBody

open Pattern Text

variable {text block rest : Text} {start opening closing : Nat}

/-- The match reaches to the last parenthesis that closes. -/
theorem matchStart?_block (present : block ≠ []) (last : ')' ∉ rest) :
    pattern.matchStart? ('(' :: (block ++ ')' :: rest)) =
      some ⟨[⟨block ++ ')' :: rest, ')' :: rest⟩], rest⟩ := by
  -- What the match needs after the block is a parenthesis.
  let goOn : Text → Option Match := fun left => (char ')' ++ empty).firstMatch? left fun after =>
    some ⟨⟨block ++ ')' :: rest, left⟩ :: after.groups, after.rest⟩
  have accepted : goOn (')' :: rest) = some ⟨[⟨block ++ ')' :: rest, ')' :: rest⟩], rest⟩ :=
    firstMatch?_char_cons ')'
  -- Behind the parenthesis no further one stands at which a longer block could end.
  have fails : CharClass.lastStop? .anything goOn (')' :: rest) = none := by
    rw [CharClass.lastStop?_eq_findSome?, List.findSome?_eq_none_iff]
    intro left stop
    have isEnd : left <:+ rest := CharClass.suffix_of_mem_stops (List.mem_reverse.mp stop)
    have other : left.head? ≠ some ')' := fun head =>
      last (isEnd.subset (List.mem_of_mem_head? head))
    exact (firstMatch?_char ')').trans (if_neg other)
  have taken := CharClass.lastStop?_append present (fun _ _ => rfl) accepted fails
  rw [matchStart?, ← firstMatch?_append_empty, pattern, firstMatch?_assoc, firstMatch?_assoc,
    firstMatch?_char_cons, firstMatch?_append, firstMatch?, firstMatch?]
  exact taken

/-- A block is matched where a parenthesis opens and one closes behind the next character. -/
theorem matches_block_iff : pattern.Matches text ↔
    ∃ content rest, content ≠ [] ∧ text = '(' :: (content ++ ')' :: rest) := by
  -- The pattern is taken apart from its end, and put together in the same way.
  rw [matches_iff]
  constructor
  · intro described
    obtain ⟨_, _, rest, rfl, described⟩ := described
    obtain ⟨_, _, rfl, rfl, toContent⟩ := described.exists_last_char
    obtain ⟨_, content, _, _, rfl, rfl, opens, kept⟩ := describes_append_iff.mp toContent
    obtain ⟨_, rfl, inside⟩ := describes_group_iff.mp kept
    obtain ⟨isRun, rfl⟩ := describes_longest_iff.mp inside
    obtain ⟨rfl, rfl⟩ := describes_char_iff.mp opens
    exact ⟨content, rest, isRun.present, by simp⟩
  · intro written
    obtain ⟨content, rest, present, rfl⟩ := written
    have inside : (longest .anything).Describes content [] (')' :: rest) :=
      .longest ⟨present, fun _ _ => rfl⟩
    have opened := (describes_char '(').append inside.group
    exact ⟨_, _, rest, by simp, opened.append (describes_char ')')⟩

/-- A block in parentheses is found where its parenthesis opens, if no other one closes behind it.
-/
theorem block?_append {front tail : Text} (present : block ≠ []) (last : ')' ∉ tail) :
    block? (front ++ '(' :: (block ++ ')' :: tail)) front.length = some block := by
  rw [block?, List.drop_left, search?_of_matchStart? (matchStart?_block present last)]
  simp [Match.groupText]

/-- Room for a character between the two parentheses is enough for the block between them. -/
theorem block?_of_places (first : FirstAt text '(' start opening) (last : LastAt text ')' closing)
    (room : opening + 2 ≤ closing) : block? text start = some (between text opening closing) := by
  obtain ⟨fits, closes⟩ := List.getElem?_eq_some_iff.mp last.stands
  -- The last parenthesis has the block in front of it and no parenthesis that closes behind it.
  have block : text.drop (opening + 1) =
      between text opening closing ++ ')' :: text.drop (closing + 1) := by
    have whole : text = text.take closing ++ ')' :: text.drop (closing + 1) := by
      rw [← closes, ← List.drop_eq_getElem_cons fits, List.take_append_drop]
    conv_lhs => rw [whole]
    rw [between, List.drop_append_of_le_length]
    rw [List.length_take_of_le (by omega)]
    omega
  -- The room is what makes the block a text that can be matched.
  have present : between text opening closing ≠ [] := by
    intro empty
    have length := congrArg List.length empty
    rw [between, List.length_drop, List.length_take_of_le (by omega), List.length_nil] at length
    omega
  have absent : ')' ∉ text.drop (closing + 1) := by
    intro member
    obtain ⟨index, stands⟩ := List.mem_iff_getElem?.mp member
    rw [List.getElem?_drop] at stands
    exact last.isLast _ (by omega) stands
  -- So the match at the first parenthesis that opens takes the block as a whole.
  obtain ⟨before, opens⟩ := List.getElem?_eq_some_iff.mp first.stands
  have matched := matchStart?_block present absent
  rw [← block, ← opens, ← List.drop_eq_getElem_cons before] at matched
  -- At an earlier place from the start on no parenthesis opens, so nothing is found there.
  have none : ∀ earlier < opening - start,
      pattern.matchStart? ((text.drop start).drop earlier) = none := by
    intro earlier inFront
    rw [← Option.not_isSome_iff_eq_none, isSome_matchStart?_iff, matches_block_iff]
    intro found
    obtain ⟨content, rest, -, opensThere⟩ := found
    have stands : text[start + earlier]? = some '(' := by
      rw [← List.getElem?_drop, ← List.head?_drop, opensThere]
      rfl
    exact first.isFirst _ (Nat.le_add_right _ _) (by omega) stands
  rw [← Nat.add_sub_cancel' first.fromStart, ← List.drop_drop] at matched
  rw [block?, search?_eq_some_iff.mpr ⟨opening - start, matched, none⟩,
    Nat.add_sub_cancel' first.fromStart, block]
  simp [Match.groupText]

/-- The block that is found stands between the first parenthesis that opens from the start on and
the last one of the whole text that closes. -/
theorem block?_eq_some_iff : block? text start = some block ↔ ∃ opening closing,
    FirstAt text '(' start opening ∧ LastAt text ')' closing ∧ opening + 2 ≤ closing ∧
      block = between text opening closing := by
  constructor
  · intro searched
    obtain ⟨found, found?, rfl⟩ := Option.map_eq_some_iff.mp searched
    obtain ⟨place, matched, -⟩ := search?_eq_some_iff.mp found?
    obtain ⟨content, rest, present, opensThere⟩ := matches_block_iff.mp
      (isSome_matchStart?_iff.mp (Option.isSome_of_mem matched))
    -- Wherever the search has found its block, the two parentheses are at least as far apart.
    have opens : text[start + place]? = some '(' := by
      rw [← List.getElem?_drop, ← List.head?_drop, opensThere]
      rfl
    have closes : text[start + place + (content.length + 1)]? = some ')' := by
      rw [← List.getElem?_drop, ← List.drop_drop, opensThere, List.getElem?_cons_succ,
        List.getElem?_append_right (Nat.le_refl _), Nat.sub_self]
      rfl
    obtain ⟨opening, first⟩ := exists_firstAt (Nat.le_add_right start place) opens
    obtain ⟨closing, last⟩ := exists_lastAt closes
    have content := List.length_pos_iff.mpr present
    -- The first and the last one stand no closer together than the two that were found.
    have room : opening + 2 ≤ closing := by
      have before := first.le (Nat.le_add_right start place) opens
      have behind := last.le closes
      omega
    have block := block?_of_places first last room
    exact ⟨opening, closing, first, last, room, Option.some.inj (searched.symm.trans block)⟩
  · intro given
    obtain ⟨opening, closing, first, last, room, rfl⟩ := given
    exact block?_of_places first last room

/-- No block is found when the last parenthesis that closes is not far enough behind the first one
that opens. -/
theorem block?_eq_none_iff : block? text start = none ↔ ∀ opening closing,
    FirstAt text '(' start opening → LastAt text ')' closing → closing < opening + 2 := by
  constructor
  · intro missing opening closing first last
    -- With room between the two a block would have been found.
    apply Nat.lt_of_not_le
    intro room
    rw [block?_of_places first last room] at missing
    cases missing
  · intro narrow
    rw [Option.eq_none_iff_forall_ne_some]
    intro block found
    obtain ⟨opening, closing, first, last, room, -⟩ := block?_eq_some_iff.mp found
    exact absurd room (Nat.not_le_of_lt (narrow opening closing first last))

/-- A character that stands at the start is the first one from there. -/
theorem firstAt_start (opens : text[start]? = some '(') : FirstAt text '(' start start :=
  ⟨le_refl start, opens, fun _ behind before => absurd behind (Nat.not_le_of_lt before)⟩

/-- Where a parenthesis opens at the start itself, only the last one that closes is in question. -/
theorem block?_start_eq_none_iff (opens : text[start]? = some '(') :
    block? text start = none ↔ ∀ closing, LastAt text ')' closing → closing < start + 2 := by
  rw [block?_eq_none_iff]
  constructor
  · intro narrow closing last
    exact narrow start closing (firstAt_start opens) last
  · intro narrow opening closing first last
    -- No other parenthesis that opens comes first.
    obtain rfl : opening = start := Nat.le_antisymm (first.le (le_refl start) opens) first.fromStart
    exact narrow closing last

/-- A block that opens at the start ends with the last parenthesis. -/
theorem block?_start (opens : text[start]? = some '(') (last : LastAt text ')' closing)
    (room : start + 2 ≤ closing) : block? text start = some (between text start closing) :=
  block?_of_places (firstAt_start opens) last room

end TableBody

end Ddl
