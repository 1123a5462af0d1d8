import Ddl.Proofs.Text.Collapse

/-! Texts whose white space is single spaces between other characters are those that collapsing and
trimming leave as they are. -/

namespace Ddl

namespace Text

variable {text : Text} {afterSpace : Bool}

/-- The white space of the text is spaces between other characters. -/
structure Tidy (text : Text) : Prop where
  begins : ∀ char ∈ text.head?, isSpace char = false
  ends : ∀ char ∈ text.getLast?, isSpace char = false
  /-- There is white space of one kind only. -/
  plain : ∀ char ∈ text, isSpace char = true → char = ' '

/-- Whether a text is tidy can be told from its ends and its characters. -/
theorem tidy_iff : text.Tidy ↔ text.head?.all (!isSpace ·) = true ∧
    text.getLast?.all (!isSpace ·) = true ∧
    text.all (fun char => !isSpace char || char == ' ') = true := by
  -- A character is visible or it is white space, which has to be a space.
  simp only [Option.all_eq_true, List.all_eq_true, Bool.not_eq_true', Bool.or_eq_true, beq_iff_eq]
  constructor
  · intro tidy
    refine ⟨tidy.begins, tidy.ends, fun char member => ?_⟩
    cases blank : isSpace char with
    | false => exact .inl rfl
    | true => exact .inr (tidy.plain char member blank)
  · intro all
    obtain ⟨begins, ends, plain⟩ := all
    refine ⟨begins, ends, fun char member blank => ?_⟩
    exact (plain char member).resolve_left (by simp [blank])

/-- The ends and the characters of a text are looked at to decide whether it is tidy. -/
instance : Decidable text.Tidy :=
  decidable_of_iff _ tidy_iff.symm

/-- The white space of the text is single spaces between other characters. -/
structure Single (text : Text) : Prop extends Tidy text where
  apart : ¬[' ', ' '] <:+: text

/-- Collapsed white space is made of spaces. -/
theorem plain_collapseFrom :
    ∀ char ∈ collapseFrom afterSpace text, isSpace char = true → char = ' ' := by
  -- A white space that is kept is replaced by a space.
  fun_induction collapseFrom afterSpace text with
  | case1 => simp
  | case2 char rest blank ih => exact ih
  | case3 afterSpace char rest blank outside ih =>
    exact List.forall_mem_cons.mpr ⟨fun _ => rfl, ih⟩
  | case4 afterSpace char rest solid ih =>
    exact List.forall_mem_cons.mpr ⟨fun blank => absurd blank solid, ih⟩

/-- No space comes behind white space. -/
theorem head?_collapseFrom_true : (collapseFrom true text).head? ≠ some ' ' := by
  have space : isSpace ' ' = true := by decide
  induction text with
  | nil => simp [collapseFrom]
  | cons char rest ih =>
    cases blank : isSpace char with
    | true => simpa [collapseFrom, blank] using ih
    | false =>
      -- The character that stands there is none.
      have other : char ≠ ' ' := fun same => by simp [same, space] at blank
      simpa [collapseFrom, blank] using other

/-- No two spaces stand next to each other in collapsed text. -/
theorem apart_collapseFrom : ¬[' ', ' '] <:+: collapseFrom afterSpace text := by
  have space : isSpace ' ' = true := by decide
  -- Behind a space that is kept no other one is.
  fun_induction collapseFrom afterSpace text with
  | case1 => simp
  | case2 char rest blank ih => exact ih
  | case3 afterSpace char rest blank outside ih =>
    rw [List.infix_cons_iff, pair_prefix_cons, not_or, not_and]
    exact ⟨fun _ => head?_collapseFrom_true, ih⟩
  | case4 afterSpace char rest solid ih =>
    rw [List.infix_cons_iff, pair_prefix_cons, not_or, not_and]
    exact ⟨fun same => absurd space (same ▸ solid), ih⟩

/-- Where all white space is spaces, trimming leaves those between other characters. -/
theorem tidy_trim (plain : ∀ char ∈ text, isSpace char = true → char = ' ') : text.trim.Tidy where
  begins := fun _ => kept_of_head?_trimBy
  ends := fun _ => kept_of_getLast?_trimBy
  plain := fun char member => plain char ((infix_trimBy _ _).subset member)

/-- What is collapsed and trimmed has single spaces between its other characters. -/
theorem single_trim_collapse (text : Text) : text.collapse.trim.Single where
  toTidy := tidy_trim plain_collapseFrom
  apart := fun found => apart_collapseFrom (found.trans (infix_trimBy _ _))

/-- Nothing is to be collapsed where white space is single spaces already. -/
theorem collapseFrom_eq_self (plain : ∀ char ∈ text, isSpace char = true → char = ' ')
    (apart : ¬[' ', ' '] <:+: text) (behind : afterSpace = true → text.head? ≠ some ' ') :
    collapseFrom afterSpace text = text := by
  induction text generalizing afterSpace with
  | nil => rfl
  | cons char rest ih =>
    rw [List.forall_mem_cons] at plain
    rw [List.infix_cons_iff, pair_prefix_cons, not_or, not_and] at apart
    cases blank : isSpace char with
    | false => simpa [collapseFrom, blank] using ih plain.2 apart.2 (by simp)
    | true =>
      -- This is a space, which follows no other one, and no other one follows it.
      obtain rfl := plain.1 blank
      have outside : afterSpace = false := by
        cases afterSpace with
        | false => rfl
        | true => exact absurd rfl (behind rfl)
      simpa [collapseFrom, blank, outside] using ih plain.2 apart.2 fun _ => apart.1 rfl

/-- Nothing is trimmed from a tidy text. -/
theorem Tidy.trim_eq_self (tidy : text.Tidy) : text.trim = text := by
  -- The text is empty or it has a visible character at each end.
  by_cases empty : text = []
  · rw [empty]
    rfl
  · have head := List.head?_eq_some_head empty
    have last := List.getLast?_eq_some_getLast empty
    exact trim_of_tight ⟨⟨_, head, tidy.begins _ head⟩, ⟨_, last, tidy.ends _ last⟩⟩

/-- Such a text is left as it is. -/
theorem Single.trim_collapse (single : text.Single) : text.collapse.trim = text := by
  have collapsed : text.collapse = text := collapseFrom_eq_self single.plain single.apart (by simp)
  rw [collapsed, single.toTidy.trim_eq_self]

/-- Characters other than white space stay as many as they are. -/
theorem count_trim_collapse {char : Char} (solid : isSpace char = false) (text : Text) :
    text.collapse.trim.count char = text.count char := by
  have kept : ∀ text : Text, (text.filter (!isSpace ·)).count char = text.count char :=
    fun _ => List.count_filter (by simp [solid])
  rw [← kept, filter_trim_collapse, kept]

end Text

end Ddl
