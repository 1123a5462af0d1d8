import Ddl.Proofs.Written.Normal

/-! Trimming takes white space off both ends of a text and leaves nothing or a text without white
space at its ends. -/

namespace Ddl

namespace Text

variable {text before after front : Text} {drops : Char → Bool} {char : Char}

/-- What stands behind the characters that are dropped ends with such characters. -/
theorem exists_dropWhile (drops : Char → Bool) (text : Text) :
    ∃ after : Text, text.dropWhile drops = text.trimBy drops ++ after ∧ after.all drops = true := by
  -- What is left out at the end is a run from behind.
  refine ⟨((text.dropWhile drops).reverse.takeWhile drops).reverse, ?_, ?_⟩
  · rw [trimBy, trimEndBy, ← List.reverse_append, List.takeWhile_append_dropWhile,
      List.reverse_reverse]
  · rw [List.all_reverse]
    exact List.all_takeWhile

/-- What is left of a text stands in it between the characters that are taken off. -/
theorem exists_trimBy (drops : Char → Bool) (text : Text) :
    ∃ before after : Text, text = before ++ (text.trimBy drops ++ after) ∧
      before.all drops = true ∧ after.all drops = true := by
  obtain ⟨after, front, dropped⟩ := exists_dropWhile drops text
  refine ⟨text.takeWhile drops, after, ?_, List.all_takeWhile, dropped⟩
  rw [← front, List.takeWhile_append_dropWhile]

/-- A trimmed text stands in the text between white space. -/
theorem exists_trim (text : Text) : ∃ before after : Text, text = before ++ (text.trim ++ after) ∧
    before.isBlank = true ∧ after.isBlank = true :=
  exists_trimBy isSpace text

/-- What is left of a text stands in it. -/
theorem infix_trimBy (drops : Char → Bool) (text : Text) : text.trimBy drops <:+: text := by
  obtain ⟨before, after, split, -⟩ := exists_trimBy drops text
  exact ⟨before, after, by rw [List.append_assoc, ← split]⟩

/-- The first character that is left is one that is not dropped. -/
theorem kept_of_head?_dropWhile (first : (text.dropWhile drops).head? = some char) :
    drops char = false := by
  have stops := List.head?_dropWhile_not drops text
  rwa [first] at stops

/-- What is left of a text does not begin with a character that is taken off. -/
theorem kept_of_head?_trimBy (first : (text.trimBy drops).head? = some char) :
    drops char = false := by
  -- What is taken off at the end does not change the beginning.
  obtain ⟨after, front, -⟩ := exists_dropWhile drops text
  have begins : (text.dropWhile drops).head? = some char := by
    rw [front, List.head?_append, first]
    rfl
  exact kept_of_head?_dropWhile begins

/-- What is left of a text does not end with a character that is taken off. -/
theorem kept_of_getLast?_trimBy (last : (text.trimBy drops).getLast? = some char) :
    drops char = false := by
  rw [trimBy, trimEndBy, List.getLast?_reverse] at last
  exact kept_of_head?_dropWhile last

/-- Something that is left of a text has no white space at its ends. -/
theorem tight_trim (present : text.trim ≠ []) : Tight text.trim where
  -- Neither end is one that would be taken off.
  head := ⟨_, List.head?_eq_some_head present,
    kept_of_head?_trimBy (List.head?_eq_some_head present)⟩
  last := ⟨_, List.getLast?_eq_some_getLast present,
    kept_of_getLast?_trimBy (List.getLast?_eq_some_getLast present)⟩

/-- Nothing is trimmed from a text without white space at its ends. -/
theorem trim_of_tight (tight : text.Tight) : text.trim = text := by
  have alone : trim ([] ++ (text ++ [])) = text := trim_blank_append tight rfl rfl
  simpa using alone

/-- What is trimmed is not trimmed any more. -/
@[simp] theorem trim_trim (text : Text) : text.trim.trim = text.trim := by
  -- Either nothing is left or the ends are visible.
  by_cases empty : text.trim = []
  · rw [empty]
    rfl
  · exact trim_of_tight (tight_trim empty)

/-- White space around a text does not change what is left of it. -/
theorem trim_between_blanks (blankBefore : before.isBlank = true)
    (blankAfter : after.isBlank = true) (text : Text) :
    (before ++ (text ++ after)).trim = text.trim := by
  -- The white space around the text joins that at its own ends.
  obtain ⟨front, back, whole, blankFront, blankBack⟩ := exists_trim text
  have wider : before ++ (text ++ after) = (before ++ front) ++ (text.trim ++ (back ++ after)) :=
    calc before ++ (text ++ after)
      _ = before ++ ((front ++ (text.trim ++ back)) ++ after) := by rw [← whole]
      _ = (before ++ front) ++ (text.trim ++ (back ++ after)) := by simp only [List.append_assoc]
  have blanks : (before ++ front).isBlank = true ∧ (back ++ after).isBlank = true := by
    simp only [isBlank, List.all_append, Bool.and_eq_true] at *
    exact ⟨⟨blankBefore, blankFront⟩, blankBack, blankAfter⟩
  rw [wider]
  by_cases empty : text.trim = []
  · rw [empty]
    refine trim_eq_nil ?_
    simp only [isBlank, List.all_append, Bool.and_eq_true, List.nil_append] at *
    exact blanks
  · exact trim_blank_append (tight_trim empty) blanks.1 blanks.2

/-- A text that begins and ends with visible characters is kept in front of others. -/
theorem exists_trim_append (tight : front.Tight) (rest : Text) :
    ∃ more, (front ++ rest).trim = front ++ more := by
  obtain ⟨before, after, whole, blankBefore, blankAfter⟩ := exists_trim (front ++ rest)
  generalize (front ++ rest).trim = kept at whole ⊢
  obtain ⟨head, first, solidHead⟩ := tight.head
  obtain ⟨last, ends, solidLast⟩ := tight.last
  -- Nothing is removed in front, where the text begins with a visible character.
  have none : before = [] := by
    cases before with
    | nil => rfl
    | cons char later =>
      -- The first character cannot be both.
      obtain ⟨others, rfl⟩ := List.head?_eq_some_iff.mp first
      obtain ⟨rfl, -⟩ := List.cons.inj whole
      simp [isSpace_of_isBlank blankBefore List.mem_cons_self] at solidHead
  rw [none, List.nil_append] at whole
  obtain ⟨more, goesOn, -⟩ | ⟨more, split, space⟩ := List.append_eq_append_iff.mp whole
  · exact ⟨more, goesOn⟩
  · -- What is removed would reach into the text in front.
    rcases List.eq_nil_or_concat more with rfl | ⟨others, char, rfl⟩
    · exact ⟨[], by simp [split]⟩
    · have same : char = last := by simpa [split] using ends
      have blank : isSpace char = true :=
        isSpace_of_isBlank blankAfter (by simp [space])
      simp [← same, blank] at solidLast

end Text

end Ddl
