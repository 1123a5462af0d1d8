import Ddl.Proofs.Text.Trim
import Ddl.Proofs.Written.Clauses

/-! The parts on both sides of a comma do not depend on each other when as many parentheses are
closed in front of it as are opened there. -/

namespace Ddl

namespace CommaList

variable {depth : Int} {front : Text} {char : Char}

/-- How much deeper in parentheses a text ends than it begins. -/
def rise : Text → Int
  | [] => 0
  | char :: rest => deepening char + rise rest

/-- Two texts rise one after the other. -/
theorem rise_append (front back : Text) : rise (front ++ back) = rise front + rise back := by
  induction front with
  | nil => simp [rise]
  | cons char later ih => rw [List.cons_append, rise, rise, ih, Int.add_assoc]

/-- The depth that is reached is the one at the beginning and the rise. -/
theorem rise_of_depthAfter? {reached : Int} (level : depthAfter? depth front = some reached) :
    depth + rise front = reached := by
  -- No comma ends the list on the way, and each character adds its part to the depth.
  induction front generalizing depth with
  | nil => simpa [rise, depthAfter?] using level
  | cons char later ih =>
    rw [depthAfter?] at level
    split at level
    · cases level
    · rw [← ih level, rise, Int.add_assoc]

/-- A comma that separates ends a part, and the parts of the rest follow. -/
theorem partsFrom_append_comma (level : depth + rise front = 0) (rest : Text) :
    partsFrom depth (front ++ ',' :: rest) =
      ((partsFrom depth front).1, (partsFrom depth front).2 ++ parts rest) := by
  induction front generalizing depth with
  | nil =>
    obtain rfl : depth = 0 := by simpa [rise] using level
    rfl
  | cons char later ih =>
    have behind : depth + deepening char + rise later = 0 := by
      rw [← level, rise, Int.add_assoc]
    by_cases separates : char = ',' ∧ depth = 0
    · -- A comma that separates already begins the count anew, at the same depth.
      obtain ⟨rfl, rfl⟩ := separates
      simp [partsFrom, ih (show 0 + rise later = 0 from behind)]
    · simp [partsFrom, separates, ih behind]

/-- A comma at depth zero cuts a text, whatever commas there are in front of it. -/
theorem parts_append_comma_of_rise (level : rise front = 0) (rest : Text) :
    parts (front ++ ',' :: rest) = parts front ++ parts rest := by
  rw [parts, partsFrom_append_comma (by rw [level]; rfl)]
  rfl

/-- The first part begins with a text in front that no comma cuts. -/
theorem parts_append (level : depthAfter? 0 front = some 0) (rest : Text) : ∃ first later,
    parts rest = first :: later ∧ parts (front ++ rest) = (front ++ first) :: later :=
  ⟨_, _, rfl, by rw [parts, partsFrom_append level]⟩

/-- White space in front of a text is white space in front of its first part. -/
theorem map_trim_parts_space (rest : Text) :
    (parts (' ' :: rest)).map Text.trim = (parts rest).map Text.trim := by
  -- The space does not change the depth, and so it belongs to the first part.
  have level : depthAfter? 0 [' '] = some 0 := rfl
  obtain ⟨first, later, alone, behind⟩ := parts_append level rest
  have same : Text.trim ([' '] ++ (first ++ [])) = first.trim :=
    Text.trim_between_blanks (by decide) rfl first
  rw [List.append_nil] at same
  rw [List.singleton_append] at behind
  rw [behind, alone, List.map_cons, List.map_cons, same]

/-- The last part goes on to the end of the text. -/
theorem exists_last_part (other : char ≠ ',') (depth : Int) (text : Text) : ∃ earlier last,
    (partsFrom depth (text ++ [char])).1 :: (partsFrom depth (text ++ [char])).2 =
      earlier ++ [last ++ [char]] := by
  induction text generalizing depth with
  | nil => exact ⟨[], [], by simp [partsFrom, other]⟩
  | cons next later ih =>
    by_cases separates : next = ',' ∧ depth = 0
    · obtain ⟨earlier, last, whole⟩ := ih depth
      exact ⟨[] :: earlier, last, by simp [partsFrom, separates, ← whole]⟩
    · obtain ⟨earlier, last, whole⟩ := ih (depth + deepening next)
      -- The character goes to the first part, which can be the last one too.
      cases earlier with
      | nil =>
        obtain ⟨first, none⟩ := List.cons.inj whole
        exact ⟨[], next :: last, by simp [partsFrom, separates, first, none]⟩
      | cons part earlier =>
        obtain ⟨first, others⟩ := List.cons.inj whole
        exact ⟨(next :: part) :: earlier, last, by simp [partsFrom, separates, first, others]⟩

/-- No part is left out of a text that does not end with white space or a comma. -/
theorem split_append_singleton (other : char ≠ ',') (solid : isSpace char = false) (text : Text) :
    split (text ++ [char]) = parts (text ++ [char]) := by
  -- The last part ends with the character, and so it is not blank.
  obtain ⟨earlier, last, whole⟩ := exists_last_part other 0 text
  have whole : parts (text ++ [char]) = earlier ++ [last ++ [char]] := whole
  have ends : (parts (text ++ [char])).getLast?.elim true Text.isBlank = false := by
    simp [whole, Text.isBlank, solid]
  rw [split, if_neg (by rw [ends]; simp)]

end CommaList

end Ddl
