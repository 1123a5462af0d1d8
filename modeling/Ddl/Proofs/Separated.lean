import Ddl.Separated

/-! The parts of a list do not depend on each other, and only the last one changes when the list
goes on without another separator. -/

namespace Ddl

namespace Separated

variable {Element : Type} {separates : Element → Bool} {element : Element}
  {elements front back part : List Element}

/-- The parts of a list are what is left when it is split at its separators. -/
theorem parts_eq_splitOnP (separates : Element → Bool) (elements : List Element) :
    parts separates elements = elements.splitOnP separates := by
  -- Both begin a new part at a separator, and add other elements to the first one.
  induction elements with
  | nil => rfl
  | cons element later ih =>
    rw [List.splitOnP_cons_eq_if_modifyHead, ← ih]
    cases separated : separates element <;> simp [parts, partsFrom, separated]

/-- A list without separators is its only part. -/
theorem parts_eq_singleton (plain : ∀ element ∈ elements, separates element = false) :
    parts separates elements = [elements] := by
  rw [parts_eq_splitOnP, List.splitOnP_eq_singleton plain]

/-- The parts on both sides of a separator do not depend on each other. -/
theorem parts_append_cons (separator : separates element = true) :
    parts separates (front ++ element :: back) = parts separates front ++ parts separates back := by
  simp only [parts_eq_splitOnP, List.splitOnP_append_cons _ _ separator]

/-- A list either has no separators or goes on behind the first of them. -/
theorem induction_on_parts {motive : List Element → Prop} (separates : Element → Bool)
    (plain : ∀ elements, (∀ element ∈ elements, separates element = false) → motive elements)
    (cut : ∀ front element back, (∀ element ∈ front, separates element = false) →
      separates element = true → motive back → motive (front ++ element :: back))
    (elements : List Element) : motive elements := by
  -- The induction is on the length, since the first part can have any number of elements.
  induction length : elements.length using Nat.strongRecOn generalizing elements with
  | _ _ ih =>
    have whole := List.takeWhile_append_dropWhile (p := (!separates ·)) (l := elements)
    have first : ∀ element ∈ elements.takeWhile (!separates ·), separates element = false := by
      simpa using List.all_eq_true.mp (List.all_takeWhile (p := (!separates ·)) (l := elements))
    cases rest : elements.dropWhile (!separates ·) with
    | nil =>
      rw [rest, List.append_nil] at whole
      exact plain elements (whole ▸ first)
    | cons element back =>
      have separator := List.head?_dropWhile_not (!separates ·) elements
      rw [rest] at whole separator
      rw [← whole] at length ⊢
      refine cut _ element back first (by simpa using separator) (ih back.length ?_ back rfl)
      rw [← length, List.length_append, List.length_cons]
      omega

/-- A part is a stretch of the list without separators. -/
theorem stretch_of_mem_parts (member : part ∈ parts separates elements) :
    part <:+: elements ∧ ∀ element ∈ part, separates element = false := by
  -- The first part stands in front of the first separator, and the others behind it.
  induction elements using induction_on_parts separates with
  | plain elements plain =>
    rw [parts_eq_singleton plain, List.mem_singleton] at member
    subst part
    exact ⟨List.infix_rfl, plain⟩
  | cut front element back plain separator ih =>
    rw [parts_append_cons separator, parts_eq_singleton plain, List.singleton_append,
      List.mem_cons] at member
    rcases member with rfl | member
    · exact ⟨(List.prefix_append _ _).isInfix, plain⟩
    · obtain ⟨stretch, plain⟩ := ih member
      have behind : back <:+ front ++ element :: back := ⟨front ++ [element], by simp⟩
      exact ⟨stretch.trans behind.isInfix, plain⟩

/-- Where one part ends and another one begins, there is a separator between them. -/
theorem exists_separator {before after : List (List Element)} (presentBefore : before ≠ [])
    (presentAfter : after ≠ []) (split : parts separates elements = before ++ after) :
    ∃ front element back, elements = front ++ element :: back ∧ separates element = true ∧
      parts separates front = before ∧ parts separates back = after := by
  induction elements using induction_on_parts separates generalizing before with
  | plain elements plain =>
    -- A single part is not both in front and behind.
    have lengths := congrArg List.length split
    rw [parts_eq_singleton plain, List.length_append, List.length_singleton] at lengths
    have := List.length_pos_iff.mpr presentBefore
    have := List.length_pos_iff.mpr presentAfter
    omega
  | cut front element back plain separator ih =>
    rw [parts_append_cons separator, parts_eq_singleton plain, List.singleton_append] at split
    obtain _ | ⟨first, before⟩ := before
    · exact absurd rfl presentBefore
    rw [List.cons_append, List.cons.injEq] at split
    obtain ⟨rfl, split⟩ := split
    -- The parts in front are the first one alone, or they go on behind the first separator.
    obtain _ | ⟨second, before⟩ := before
    · exact ⟨front, element, back, rfl, separator, parts_eq_singleton plain, split⟩
    · obtain ⟨inner, other, rest, rfl, separates_, parts, others⟩ := ih (by simp) split
      refine ⟨front ++ element :: inner, other, rest, by simp, separates_, ?_, others⟩
      rw [parts_append_cons separator, parts_eq_singleton plain, parts]
      rfl

/-- A list that goes on without a separator goes on with its last part. -/
theorem exists_last_part (separates : Element → Bool) (elements : List Element) :
    ∃ earlier last, ∀ more : List Element, (∀ element ∈ more, separates element = false) →
      parts separates (elements ++ more) = earlier ++ [last ++ more] := by
  -- What is added belongs to the last part, which no separator ends.
  induction elements using induction_on_parts separates with
  | plain elements plain =>
    refine ⟨[], elements, fun more goesOn => parts_eq_singleton ?_⟩
    simpa [or_imp, forall_and] using ⟨plain, goesOn⟩
  | cut front element back plain separator ih =>
    obtain ⟨earlier, last, parts⟩ := ih
    refine ⟨front :: earlier, last, fun more goesOn => ?_⟩
    rw [List.append_assoc, List.cons_append, parts_append_cons separator,
      parts_eq_singleton plain, parts more goesOn]
    rfl

variable {Other : Type} {separatesOther : Other → Bool} {change : Element → List Other}

/-- A list whose elements are changed has the same parts with their elements changed, if only
separators become separators. -/
theorem parts_flatMap
    (separator : ∀ element, separates element = true →
      ∃ other, change element = [other] ∧ separatesOther other = true)
    (plain : ∀ element, separates element = false →
      ∀ other ∈ change element, separatesOther other = false)
    (elements : List Element) :
    parts separatesOther (elements.flatMap change) =
      (parts separates elements).map (List.flatMap change) := by
  have stays {front : List Element} (inside : ∀ element ∈ front, separates element = false) :
      ∀ other ∈ front.flatMap change, separatesOther other = false := by
    intro other member
    obtain ⟨element, present, made⟩ := List.mem_flatMap.mp member
    exact plain element (inside element present) other made
  -- The first part is changed as a whole, and its separator stays one.
  induction elements using induction_on_parts separates with
  | plain elements inside =>
    rw [parts_eq_singleton inside, parts_eq_singleton (stays inside)]
    rfl
  | cut front element back inside separated ih =>
    obtain ⟨other, made, cut⟩ := separator element separated
    rw [List.flatMap_append, List.flatMap_cons, made, List.singleton_append,
      parts_append_cons cut, parts_eq_singleton (stays inside), ih, parts_append_cons separated,
      parts_eq_singleton inside]
    rfl

end Separated

end Ddl
