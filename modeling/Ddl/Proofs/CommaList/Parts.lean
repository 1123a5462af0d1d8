import Ddl.Proofs.CommaList

/-! A text has exactly one list of parts that are joined by its separating commas. -/

namespace Ddl

namespace CommaList

variable {depth reached : Int} {text : Text} {list : List Text}

/-- A text rises by the parentheses that it opens and falls by those that it closes. -/
theorem rise_eq_count (text : Text) : rise text = (text.count '(' : Int) - text.count ')' := by
  induction text with
  | nil => rfl
  | cons char rest ih =>
    rw [rise, ih, deepening, List.count_cons, List.count_cons]
    -- The character is one parenthesis, the other one or none.
    by_cases opens : char = '('
    · subst opens
      simp only [beq_self_eq_true, if_true, Char.reduceBEq, Bool.false_eq_true, if_false]
      omega
    · by_cases closes : char = ')'
      · subst closes
        simp only [beq_self_eq_true, if_true, Char.reduceBEq, Bool.false_eq_true, if_false,
          Char.reduceEq]
        omega
      · simp [opens, closes]

/-- A text keeps a depth in view as long as none of its commas stands at depth zero. -/
theorem depthAfter?_eq_some_iff : depthAfter? depth text = some reached ↔
    (∀ front back, text = front ++ ',' :: back → depth + rise front ≠ 0) ∧
      depth + rise text = reached := by
  -- The first comma at depth zero is the one at which the depth is lost.
  induction text generalizing depth with
  | nil => simp [depthAfter?, rise]
  | cons char rest ih =>
    rw [depthAfter?]
    split
    · -- The very first character is a comma that separates.
      rename_i separates
      obtain ⟨rfl, rfl⟩ := separates
      constructor
      · intro none
        cases none
      · intro inside
        exact absurd rfl (inside.1 [] rest rfl)
    · rename_i stays
      rw [ih, rise, Int.add_assoc]
      refine and_congr_left fun _ => ?_
      constructor
      · intro later front back split
        cases front with
        | nil =>
          -- A comma in front of everything stands at the depth with which the text begins.
          obtain ⟨rfl, -⟩ := List.cons.inj split
          intro zero
          exact stays ⟨rfl, by simpa [rise] using zero⟩
        | cons first front =>
          obtain ⟨rfl, behind⟩ := List.cons.inj split
          rw [rise, ← Int.add_assoc]
          exact later front back behind
      · intro inside front back split
        have whole := inside (char :: front) back (by rw [split]; rfl)
        rwa [rise, ← Int.add_assoc] at whole

/-- The parts of a list stand as separating commas leave them. -/
structure Cut (list : List Text) : Prop where
  /-- A part in front of another one closes as many parentheses as it opens. -/
  closed : ∀ part ∈ list.dropLast, part.count '(' = part.count ')'
  /-- In front of a comma that stands in a part the two numbers differ. -/
  uncut : ∀ part ∈ list, ∀ front back, part = front ++ ',' :: back →
    front.count '(' ≠ front.count ')'

/-- No comma of a part separates when the two numbers differ in front of each. -/
theorem exists_depthAfter?_iff : (∃ reached, depthAfter? 0 text = some reached) ↔
    ∀ front back, text = front ++ ',' :: back → front.count '(' ≠ front.count ')' := by
  simp only [depthAfter?_eq_some_iff, rise_eq_count, exists_and_left, exists_eq', and_true]
  refine forall₂_congr fun front back => imp_congr_right fun _ => ?_
  omega

/-- A part is closed when it has as many parentheses of both kinds, and no comma in it separates. -/
theorem depthAfter?_eq_zero_iff : depthAfter? 0 text = some 0 ↔
    (∀ front back, text = front ++ ',' :: back → front.count '(' ≠ front.count ')') ∧
      text.count '(' = text.count ')' := by
  -- The rise is the difference of the two counts.
  rw [← exists_depthAfter?_iff]
  simp only [depthAfter?_eq_some_iff, rise_eq_count, exists_and_left, exists_eq', and_true]
  refine and_congr_right fun _ => ?_
  omega

/-- A text has no separating comma or goes on behind the first of them. -/
theorem exists_first_cut (depth : Int) (text : Text) :
    (∃ reached, depthAfter? depth text = some reached) ∨
      ∃ front back, text = front ++ ',' :: back ∧ depthAfter? depth front = some 0 := by
  induction text generalizing depth with
  | nil => exact .inl ⟨depth, rfl⟩
  | cons char rest ih =>
    by_cases separates : char = ',' ∧ depth = 0
    · obtain ⟨rfl, rfl⟩ := separates
      exact .inr ⟨[], rest, rfl, rfl⟩
    · -- What the rest has is seen from the depth behind the character.
      rcases ih (depth + deepening char) with ⟨reached, level⟩ | ⟨front, back, rfl, level⟩
      · exact .inl ⟨reached, by rw [depthAfter?, if_neg separates, level]⟩
      · exact .inr ⟨char :: front, back, rfl, by rw [depthAfter?, if_neg separates, level]⟩

/-- A property of texts holds of all if it holds of those without separating commas and is passed
on from what stands behind such a comma to the whole text. -/
theorem induction_on_parts {motive : Text → Prop}
    (whole : ∀ text reached, depthAfter? 0 text = some reached → motive text)
    (cut : ∀ front back, depthAfter? 0 front = some 0 → motive back →
      motive (front ++ ',' :: back)) (text : Text) : motive text := by
  -- The induction is on the length, since the first part can have any number of characters.
  induction length : text.length using Nat.strongRecOn generalizing text with
  | _ _ ih =>
    rcases exists_first_cut 0 text with ⟨reached, level⟩ | ⟨front, back, rfl, level⟩
    · exact whole text reached level
    · refine cut front back level (ih back.length ?_ back rfl)
      rw [← length, List.length_append, List.length_cons]
      omega

/-- Each text has a part. -/
theorem parts_ne_nil (text : Text) : parts text ≠ [] := by
  simp [parts]

/-- The parts of a text that are joined by commas are the text. -/
theorem join_parts (text : Text) : Text.join [','] (parts text) = text := by
  -- A text is a part as a whole, or it has a first comma that separates.
  induction text using induction_on_parts with
  | whole text reached level =>
    rw [parts_eq_singleton level]
    rfl
  | cut front back level ih =>
    rw [parts_append_comma level, Text.join_cons (parts_ne_nil back), ih]
    rfl

/-- The parts of a text stand as separating commas leave them. -/
theorem cut_parts (text : Text) : Cut (parts text) := by
  -- The first part is closed where a comma ends it, and the others are the parts of the rest.
  induction text using induction_on_parts with
  | whole text reached level =>
    rw [parts_eq_singleton level]
    refine ⟨by simp, ?_⟩
    simpa using exists_depthAfter?_iff.mp ⟨reached, level⟩
  | cut front back level ih =>
    obtain ⟨uncut, closed⟩ := depthAfter?_eq_zero_iff.mp level
    rw [parts_append_comma level]
    constructor
    · rw [List.dropLast_cons_of_ne_nil (parts_ne_nil back), List.forall_mem_cons]
      exact ⟨closed, ih.closed⟩
    · rw [List.forall_mem_cons]
      exact ⟨uncut, ih.uncut⟩

/-- Parts that stand as separating commas leave them are found again when they are joined. -/
theorem parts_join (present : list ≠ []) (cut : Cut list) :
    parts (Text.join [','] list) = list := by
  induction list with
  | nil => exact absurd rfl present
  | cons first rest ih =>
    have uncut := List.forall_mem_cons.mp cut.uncut
    cases rest with
    | nil =>
      -- A single part has no comma that separates, but it may leave parentheses open.
      obtain ⟨reached, level⟩ := exists_depthAfter?_iff.mpr uncut.1
      exact parts_eq_singleton level
    | cons second rest =>
      have closed := List.forall_mem_cons.mp cut.closed
      have level := depthAfter?_eq_zero_iff.mpr ⟨uncut.1, closed.1⟩
      rw [Text.join_cons (by simp), List.singleton_append, parts_append_comma level,
        ih (by simp) ⟨closed.2, uncut.2⟩]

/-- Splitting leaves out the last part if it is blank, and nothing else. -/
theorem split_eq_of_parts {earlier : List Text} {last : Text}
    (whole : parts text = earlier ++ [last]) :
    split text = if last.isBlank = true then earlier else earlier ++ [last] := by
  simp [split, whole]

/-- A part stands in what the parts give when they are joined. -/
theorem infix_join {part : Text} (member : part ∈ list) : part <:+: Text.join [','] list := by
  induction list with
  | nil => cases member
  | cons first rest ih =>
    by_cases last : rest = []
    · -- A single text is joined to nothing.
      subst last
      obtain rfl := List.mem_singleton.mp member
      exact List.infix_rfl
    · rw [Text.join_cons last]
      rcases List.mem_cons.mp member with rfl | member
      · exact (List.prefix_append _ _).isInfix
      · have suffix : Text.join [','] rest <:+ first ++ ([','] ++ Text.join [','] rest) :=
          ⟨first ++ [','], by simp⟩
        exact (ih member).trans suffix.isInfix

/-- What a text is split into stands in the text. -/
theorem infix_of_mem_split {part : Text} (member : part ∈ split text) : part <:+: text := by
  -- Nothing but a blank part is left out of the parts.
  have isPart : part ∈ parts text := by
    rw [split] at member
    split at member
    · exact List.dropLast_subset _ member
    · exact member
  have joined := infix_join isPart
  rwa [join_parts] at joined

/-- The parts into which a text is split, with the blank one that is left out at the end, are the
only parts that stand as separating commas leave them and that give the text when they are joined.
Parts that stand so, the last one not blank, are what their joined text is split into. -/
theorem split_exact :
    (∀ text, ∃ whole, (whole ≠ [] ∧ Text.join [','] whole = text ∧ Cut whole) ∧
      (∀ other, other ≠ [] → Text.join [','] other = text → Cut other → other = whole) ∧
      ((split text = whole ∧ ∀ last, whole.getLast? = some last → last.isBlank = false) ∨
        ∃ blank, blank.isBlank = true ∧ whole = split text ++ [blank])) ∧
    ∀ earlier last, Cut (earlier ++ [last]) → last.isBlank = false →
      split (Text.join [','] (earlier ++ [last])) = earlier ++ [last] := by
  -- The parts of the text have the two properties, and they are found again from what is joined.
  constructor
  · intro text
    refine ⟨parts text, ⟨parts_ne_nil text, join_parts text, cut_parts text⟩, ?_, ?_⟩
    · intro other present joined cut
      rw [← joined, parts_join present cut]
    · have whole := (List.dropLast_concat_getLast (parts_ne_nil text)).symm
      -- Whether the last part is left out depends on whether it is blank.
      generalize (parts text).dropLast = earlier, (parts text).getLast _ = last at whole
      have split := split_eq_of_parts whole
      rw [whole]
      cases blank : last.isBlank with
      | false =>
        refine .inl ⟨by simpa [blank] using split, ?_⟩
        intro other final
        obtain rfl : last = other := by simpa using final
        exact blank
      | true => exact .inr ⟨last, blank, by simp [split, blank]⟩
  · intro earlier last cut visible
    rw [split_eq_of_parts (parts_join (by simp) cut), visible]
    rfl

-- More closed than opened parentheses keep a comma from separating as well.
example : split "a),(b,,c, ".toList = ["a),(b".toList, [], "c".toList] := by decide

end CommaList

end Ddl
