import Ddl.Pattern.Ways
import Ddl.Proofs.Text.Chars
import Mathlib.Data.List.TakeWhile

/-! A pattern is matched step by step when the next piece cannot begin inside of the one before. -/

namespace Ddl

namespace Text

/-- The text in capital letters, where case is ignored as patterns ignore it. -/
def folded (text : Text) : Text :=
  text.map CharClass.capitalOf

/-- Nothing is folded to nothing. -/
@[simp] theorem folded_nil : folded [] = [] := rfl

/-- A text is folded character by character. -/
@[simp] theorem folded_cons (char : Char) (rest : Text) :
    folded (char :: rest) = CharClass.capitalOf char :: rest.folded := rfl

/-- Two texts are folded one after the other. -/
@[simp] theorem folded_append (first second : Text) :
    (first ++ second).folded = first.folded ++ second.folded := List.map_append

/-- A folded text has as many characters as before. -/
@[simp] theorem length_folded (text : Text) : text.folded.length = text.length := List.length_map _

end Text

/-- The text of a stretch that is followed by a known rest is what stands in front of that rest. -/
@[simp] theorem Span.text_append (stretch rest : Text) :
    (Span.mk (stretch ++ rest) rest).text = stretch := by
  simp [Span.text]

namespace CharClass

/-- A run cannot stop anywhere when its first character is not of the class. -/
theorem stops_cons_of_not_holds {cls : CharClass} {char : Char} (rest : Text)
    (outside : cls.holds char = false) : cls.stops (char :: rest) = [] := by
  simp [stops, outside]

/-- Every stop leaves an end of the text behind its first character. -/
theorem suffix_of_mem_stops {cls : CharClass} {text rest : Text} (stop : rest ∈ cls.stops text) :
    rest <:+ text.tail := by
  -- The nearest stop lies just behind the first character, and the others lie behind stops of the
  -- rest.
  induction text with
  | nil => cases stop
  | cons char later ih =>
    rw [stops] at stop
    split at stop
    · obtain rfl | stop := List.mem_cons.mp stop
      · exact List.suffix_refl _
      · exact (ih stop).trans (List.tail_suffix later)
    · cases stop

/-- Where no match can go on inside of a run, the run is taken as a whole or not at all. -/
theorem lastStop?_eq {Outcome : Type} (cls : CharClass)
    {goOn : Text → Option Outcome}
    (fails : ∀ char rest, cls.holds char = true → goOn (char :: rest) = none) (text : Text) :
    cls.lastStop? goOn text =
      if text.head?.any cls.holds then goOn (text.dropWhile cls.holds) else none := by
  induction text with
  | nil => rfl
  | cons char rest ih =>
    -- The run ends before the first character, or it goes on with the rest of the text.
    cases held : cls.holds char with
    | false => simp [CharClass.lastStop?, held]
    | true =>
      simp only [CharClass.lastStop?, held, if_true, ih, List.head?_cons, Option.any_some,
        List.dropWhile_cons]
      cases rest with
      | nil => simp
      -- Only a second character of the run is a place inside of it.
      | cons second later =>
        cases again : cls.holds second with
        | false => simp [again]
        | true =>
          have inside := fails second later again
          cases goOn ((second :: later).dropWhile cls.holds) <;> simp [again, inside]

/-- A run that is accepted is taken as a whole. -/
theorem lastStop?_of_some {Outcome : Type} {cls : CharClass} {goOn : Text → Option Outcome}
    {text : Text} {outcome : Outcome} (present : text.head?.any cls.holds = true)
    (accepted : goOn (text.dropWhile cls.holds) = some outcome) :
    cls.lastStop? goOn text = some outcome := by
  -- The longest run is tried first, and so it is the one that is taken.
  induction text with
  | nil => simp at present
  | cons char rest ih =>
    have held : cls.holds char = true := by simpa using present
    rw [List.dropWhile_cons_of_pos held] at accepted
    rw [lastStop?, if_pos held]
    -- Either the run goes on behind its first character, or it ends there.
    cases onward : rest.head?.any cls.holds with
    | true => rw [ih onward accepted]
    | false =>
      have ended : cls.lastStop? goOn rest = none := by
        cases rest with
        | nil => rfl
        | cons second later => simp_all [lastStop?]
      have stop : rest.dropWhile cls.holds = rest := by
        cases rest with
        | nil => rfl
        | cons second later => simp_all
      rw [ended, ← stop, accepted]

/-- A run of characters goes on to the last place where the match can. -/
theorem lastStop?_append {Outcome : Type} {cls : CharClass} {goOn : Text → Option Outcome}
    {front rest : Text} {outcome : Outcome} (present : front ≠ [])
    (inside : ∀ char ∈ front, cls.holds char = true) (accepted : goOn rest = some outcome)
    (last : cls.lastStop? goOn rest = none) :
    cls.lastStop? goOn (front ++ rest) = some outcome := by
  induction front with
  | nil => exact absurd rfl present
  | cons char later ih =>
    rw [List.forall_mem_cons] at inside
    rw [List.cons_append, lastStop?, if_pos inside.1]
    -- At its last character the run can go on no further, so the match goes on from there.
    cases later with
    | nil => rw [List.nil_append, last, accepted]
    | cons second others => rw [ih (List.cons_ne_nil _ _) inside.2]

/-- A run goes on to the first place where the match can. -/
theorem firstStop?_of_some {Outcome : Type} {cls : CharClass} {goOn : Text → Option Outcome}
    {front rest : Text} {outcome : Outcome} (present : front ≠ [])
    (inside : ∀ char ∈ front, cls.holds char = true ∧ ∀ later, goOn (char :: later) = none)
    (accepted : goOn rest = some outcome) : cls.firstStop? goOn (front ++ rest) = some outcome := by
  induction front with
  | nil => exact absurd rfl present
  | cons char later ih =>
    rw [List.forall_mem_cons] at inside
    rw [List.cons_append, firstStop?, if_pos inside.1.1]
    -- Only behind its last character can the match go on.
    cases later with
    | nil => rw [List.nil_append, accepted]
    | cons second others =>
      rw [List.cons_append, (inside.2 second List.mem_cons_self).2, ← List.cons_append]
      exact ih (List.cons_ne_nil _ _) inside.2

end CharClass

namespace Pattern

variable {pattern next : Pattern} {text rest : Text} {char : Char}
  {accept : Match → Option Match}

/-- Whether the pattern has a chance to match the empty stretch. -/
def mayBeEmpty : Pattern → Bool
  -- Conditions on a place match no characters.
  | empty | atEnd | wordEnd => true
  | one _ | longest _ | shortest _ => false
  | andThen first second => first.mayBeEmpty && second.mayBeEmpty
  | either first second => first.mayBeEmpty || second.mayBeEmpty
  | group body => body.mayBeEmpty

/-- Whether the pattern has a chance to match a stretch that begins with the character. -/
def mayBegin : Pattern → Char → Bool
  -- The second of two patterns comes first when the other one is empty.
  | empty, _ | atEnd, _ | wordEnd, _ => false
  | one cls, char | longest cls, char | shortest cls, char => cls.holds char
  | andThen first second, char =>
    first.mayBegin char || (first.mayBeEmpty && second.mayBegin char)
  | either first second, char => first.mayBegin char || second.mayBegin char
  | group body, char => body.mayBegin char

/-- Whether the text begins like a match of a pattern that needs some character. -/
def mayMatch (pattern : Pattern) (text : Text) : Bool :=
  text.head?.any pattern.mayBegin

/-- A match that cannot begin with the next character is empty. -/
theorem rest_of_mem_ways (outside : text.head?.any pattern.mayBegin = false) {found : Match}
    (way : found ∈ pattern.ways text) : found.rest = text ∧ pattern.mayBeEmpty = true := by
  -- Each pattern either asks for a character that is not there or matches none.
  induction pattern generalizing text found with
  | empty =>
    simp only [ways, List.mem_singleton] at way
    exact ⟨by rw [way], rfl⟩
  | one cls =>
    cases text with
    | nil => simp [ways] at way
    | cons char rest => simp_all [ways, mayBegin]
  -- A repetition that asks for one character stops nowhere without it.
  | longest cls =>
    cases text with
    | nil => simp [ways, CharClass.stops] at way
    | cons char rest =>
      have none := CharClass.stops_cons_of_not_holds rest (by simpa [mayBegin] using outside)
      simp [ways, none] at way
  | shortest cls =>
    cases text with
    | nil => simp [ways, CharClass.stops] at way
    | cons char rest =>
      have none := CharClass.stops_cons_of_not_holds rest (by simpa [mayBegin] using outside)
      simp [ways, none] at way
  | andThen first second firstRest secondRest =>
    simp only [ways, List.mem_flatMap, List.mem_map] at way
    obtain ⟨before, firstWay, after, secondWay, rfl⟩ := way
    have firstOutside : text.head?.any first.mayBegin = false := by
      cases text <;> simp_all [mayBegin]
    -- The first pattern matches nothing, and so the second one is tried at the same place.
    obtain ⟨same, firstEmpty⟩ := firstRest firstOutside firstWay
    -- What the first pattern leaves is the whole text.
    have secondOutside : before.rest.head?.any second.mayBegin = false := by
      rw [same]
      cases text <;> simp_all [mayBegin]
    obtain ⟨sameAgain, secondEmpty⟩ := secondRest secondOutside secondWay
    exact ⟨sameAgain.trans same, by simp [mayBeEmpty, firstEmpty, secondEmpty]⟩
  | either first second firstRest secondRest =>
    have firstOutside : text.head?.any first.mayBegin = false := by
      cases text <;> simp_all [mayBegin]
    have secondOutside : text.head?.any second.mayBegin = false := by
      cases text <;> simp_all [mayBegin]
    -- The ways of two alternatives are those of both.
    simp only [ways, List.mem_append] at way
    rcases way with way | way
    · obtain ⟨same, possible⟩ := firstRest firstOutside way
      exact ⟨same, by simp [mayBeEmpty, possible]⟩
    · obtain ⟨same, possible⟩ := secondRest secondOutside way
      exact ⟨same, by simp [mayBeEmpty, possible]⟩
  | group body bodyRest =>
    simp only [ways, List.mem_map] at way
    obtain ⟨inner, innerWay, rfl⟩ := way
    have innerOutside : text.head?.any body.mayBegin = false := by simpa [mayBegin] using outside
    have possible := bodyRest innerOutside innerWay
    exact possible
  -- The ends of the text and of a word match without a character.
  | atEnd =>
    unfold ways at way
    split at way <;> simp_all [mayBeEmpty]
  | wordEnd =>
    cases text with
    | nil => simp_all [ways, mayBeEmpty]
    | cons char rest =>
      unfold ways at way
      split at way <;> simp_all [mayBeEmpty]

/-- A pattern that needs some character fails where the text does not begin like a match. -/
theorem firstMatch?_eq_none (needs : pattern.mayBeEmpty = false)
    (outside : pattern.mayMatch text = false) : pattern.firstMatch? text accept = none := by
  -- Any way to match would be empty, and the pattern has none.
  rw [firstMatch?_eq_findSome?, List.findSome?_eq_none_iff]
  intro found way
  have possible := (rest_of_mem_ways outside way).2
  simp [needs] at possible

/-- The empty pattern behind another one changes nothing. -/
theorem firstMatch?_append_empty :
    (pattern ++ empty).firstMatch? text accept = pattern.firstMatch? text accept := by
  show (andThen pattern empty).firstMatch? text accept = _
  simp [firstMatch?]

/-- Three patterns in a row can be grouped either way. -/
theorem firstMatch?_assoc (first second third : Pattern) :
    (first ++ second ++ third).firstMatch? text accept =
      (first ++ (second ++ third)).firstMatch? text accept := by
  show (andThen (andThen first second) third).firstMatch? text accept =
    (andThen first (andThen second third)).firstMatch? text accept
  simp only [firstMatch?, List.append_assoc]

/-- Two patterns match when the first one does and the second one does behind it. -/
theorem firstMatch?_append (first second : Pattern) :
    (first ++ second).firstMatch? text accept = first.firstMatch? text fun before =>
      second.firstMatch? before.rest fun after =>
        accept ⟨before.groups ++ after.groups, after.rest⟩ := rfl

/-- A keyword matches where its letters stand in either case. -/
theorem firstMatch?_keyword_alone (word : String) :
    (keyword word).firstMatch? text accept =
      if word.toList <+: text.folded then accept ⟨[], text.drop word.length⟩ else none := by
  rw [keyword, ← String.length_toList]
  -- Each letter takes one character.
  induction word.toList generalizing text accept with
  | nil => simp [firstMatch?]
  | cons capital later ih =>
    rw [List.foldr_cons, firstMatch?_append]
    cases text with
    | nil => simp [firstMatch?]
    | cons char rest =>
      by_cases same : CharClass.capitalOf char = capital
      · simp [firstMatch?, CharClass.holds, same, ih]
      · simp [firstMatch?, CharClass.holds, same, List.cons_prefix_cons, Ne.symm same]

/-- A keyword in front of a pattern is taken where the folded text begins with it. -/
theorem firstMatch?_keyword (word : String) :
    (keyword word ++ next).firstMatch? text accept =
      if word.toList <+: text.folded then next.firstMatch? (text.drop word.length) accept
      else none := by
  rw [firstMatch?_append, firstMatch?_keyword_alone]
  rfl

/-- Whether a pattern may match depends on the next character alone. -/
theorem mayMatch_cons : pattern.mayMatch (char :: rest) = pattern.mayBegin char := rfl

/-- Two patterns may begin with what begins the first one, or the second one when the first may be
empty. -/
@[simp] theorem mayBegin_append (first second : Pattern) :
    (first ++ second).mayBegin char =
      (first.mayBegin char || (first.mayBeEmpty && second.mayBegin char)) := rfl

/-- Two patterns may be empty together when each of them may. -/
@[simp] theorem mayBeEmpty_append (first second : Pattern) :
    (first ++ second).mayBeEmpty = (first.mayBeEmpty && second.mayBeEmpty) := rfl

/-- A pattern needs some character, and this is none of a class. -/
structure Avoids (pattern : Pattern) (cls : CharClass) : Prop where
  /-- The pattern does not match the empty stretch. -/
  needs : pattern.mayBeEmpty = false
  /-- No match of the pattern begins with a character of the class. -/
  apart : ∀ char, cls.holds char = true → pattern.mayBegin char = false

/-- What a pattern avoids is avoided by it with any other pattern behind it. -/
theorem Avoids.append {cls : CharClass} (avoids : pattern.Avoids cls) (next : Pattern) :
    (pattern ++ next).Avoids cls := by
  refine ⟨by simp [avoids.needs], fun char held => ?_⟩
  simp [avoids.apart char held, avoids.needs]

/-- What may be left out has to avoid the class together with what comes after it. -/
theorem Avoids.optional_append {cls : CharClass} (avoids : next.Avoids cls)
    (apart : ∀ char, cls.holds char = true → pattern.mayBegin char = false) :
    (optional pattern ++ next).Avoids cls := by
  refine ⟨by simp [avoids.needs], fun char held => ?_⟩
  simp [optional, mayBegin, apart char held, avoids.apart char held]

/-- A run that is kept avoids the characters that are not of its class. -/
theorem avoids_group_longest {cls other : CharClass}
    (apart : ∀ char, cls.holds char = true → other.holds char = false) :
    (group (longest other)).Avoids cls := ⟨rfl, apart⟩

/-- A given character avoids each class to which it does not belong. -/
theorem avoids_char {cls : CharClass} {wanted : Char} (outside : cls.holds wanted = false) :
    (Pattern.char wanted).Avoids cls := by
  -- If a character of the class began a match it would be the wanted one.
  refine ⟨rfl, fun char held => ?_⟩
  simp only [Pattern.char, mayBegin, CharClass.holds, beq_eq_false_iff_ne]
  intro same
  simp [← same, held] at outside

/-- A keyword begins with a letter, in whichever case. -/
theorem mayBegin_keyword {word : String} {capital : Char} {later : List Char}
    (letters : word.toList = capital :: later) :
    (keyword word).mayBegin char = (CharClass.capitalOf char == capital) := by
  -- Only the first letter counts, since it cannot be left out.
  rw [keyword, letters, List.foldr_cons]
  simp [mayBegin, mayBeEmpty, CharClass.holds]

/-- A keyword that has letters is not matched by nothing. -/
theorem mayBeEmpty_keyword {word : String} {capital : Char} {later : List Char}
    (letters : word.toList = capital :: later) : (keyword word).mayBeEmpty = false := by
  rw [keyword, letters, List.foldr_cons]
  simp [mayBeEmpty]

/-- A keyword avoids each class without word characters. -/
theorem avoids_keyword {cls : CharClass} {word : String} {capital : Char} {later : List Char}
    (letters : word.toList = capital :: later) (upper : capital.isUpper = true)
    (apart : ∀ char, cls.holds char = true → isWord char = false) :
    (keyword word).Avoids cls := by
  refine ⟨mayBeEmpty_keyword letters, fun char held => ?_⟩
  rw [mayBegin_keyword letters, beq_eq_false_iff_ne]
  -- A character that stands for the first letter would be a word character.
  intro same
  have isWord := isWord_of_capitalOf (same ▸ upper)
  simp [apart char held] at isWord

/-- A pattern fails at a character that it avoids. -/
theorem Avoids.firstMatch?_eq_none {cls : CharClass} (avoids : next.Avoids cls)
    (held : cls.holds char = true) : next.firstMatch? (char :: rest) accept = none :=
  Pattern.firstMatch?_eq_none avoids.needs (avoids.apart char held)

/-- A run of characters that the next pattern avoids is taken as a whole. -/
theorem firstMatch?_longest {cls : CharClass} (avoids : next.Avoids cls) :
    (longest cls ++ next).firstMatch? text accept =
      if text.head?.any cls.holds then next.firstMatch? (text.dropWhile cls.holds) accept
      else none := by
  -- A shorter run would leave a character of the class to the next pattern.
  rw [firstMatch?_append, firstMatch?, CharClass.lastStop?_eq]
  · rfl
  · intro char rest held
    exact avoids.firstMatch?_eq_none held

/-- Such a run that is kept as a group is the stretch up to where it ends. -/
theorem firstMatch?_group_longest {cls : CharClass} (avoids : next.Avoids cls) :
    (group (longest cls) ++ next).firstMatch? text accept =
      if text.head?.any cls.holds then
        next.firstMatch? (text.dropWhile cls.holds) fun after =>
          accept ⟨⟨text, text.dropWhile cls.holds⟩ :: after.groups, after.rest⟩
      else none := by
  -- The group keeps what the run takes, and the run is the longest one again.
  rw [firstMatch?_append, firstMatch?, firstMatch?, CharClass.lastStop?_eq]
  · rfl
  · intro char rest held
    exact avoids.firstMatch?_eq_none held

/-- The text without its first character when this is of the class. -/
def skipOne (cls : CharClass) : Text → Text
  | [] => []
  | char :: rest => if cls.holds char then rest else char :: rest

/-- No character of the class stands at the beginning of a text. -/
abbrev Outside (cls : CharClass) (text : Text) : Prop :=
  text.head?.any cls.holds = false

/-- Nothing is skipped where a character of the class does not stand. -/
theorem skipOne_of_outside {cls : CharClass} (outside : Outside cls text) :
    skipOne cls text = text := by
  -- Either the text is at its end or its first character is of no interest.
  cases text with
  | nil => rfl
  | cons char later =>
    have apart : cls.holds char = false := by simpa [Outside] using outside
    simp [skipOne, apart]

/-- No run is dropped where no character of the class stands. -/
theorem dropWhile_of_outside {cls : CharClass} (outside : Outside cls text) :
    text.dropWhile cls.holds = text := by
  -- The text begins with no such character.
  cases text with
  | nil => rfl
  | cons char later =>
    have apart : cls.holds char = false := by simpa [Outside] using outside
    simp [apart]

/-- What may be left out is matched where the match goes on after it. -/
theorem firstMatch?_optional :
    (optional pattern ++ next).firstMatch? text accept =
      ((pattern ++ next).firstMatch? text accept).or (next.firstMatch? text accept) := by
  rw [firstMatch?_append, firstMatch?_append, optional, firstMatch?, firstMatch?]
  -- The pattern is tried first, and the empty stretch when it fails.
  cases pattern.firstMatch? text fun before =>
    next.firstMatch? before.rest fun after =>
      accept ⟨before.groups ++ after.groups, after.rest⟩ <;> rfl

/-- One character that the next pattern avoids is taken where it stands. -/
theorem firstMatch?_optional_one {cls : CharClass} (avoids : next.Avoids cls) :
    (optional (one cls) ++ next).firstMatch? text accept =
      next.firstMatch? (skipOne cls text) accept := by
  rw [firstMatch?_append, optional, firstMatch?]
  cases text with
  | nil => simp [firstMatch?, skipOne]
  | cons char rest =>
    -- A character of the class cannot be left to the next pattern.
    cases held : cls.holds char with
    | false => simp [firstMatch?, skipOne, held]
    | true =>
      have inside : next.firstMatch? (char :: rest) accept = none :=
        avoids.firstMatch?_eq_none held
      cases outcome : next.firstMatch? rest accept <;>
        simp [firstMatch?, skipOne, held, outcome, inside]

/-- A run that may be left out is taken where it stands when the next pattern avoids it. -/
theorem firstMatch?_optional_longest {cls : CharClass} (avoids : next.Avoids cls) :
    (optional (longest cls) ++ next).firstMatch? text accept =
      next.firstMatch? (text.dropWhile cls.holds) accept := by
  -- The run is tried first, and leaving it out fails when there is one.
  have taken : (longest cls ++ next).firstMatch? text accept = _ := firstMatch?_longest avoids
  rw [firstMatch?_append] at taken ⊢
  rw [optional, firstMatch?, taken, firstMatch?]
  cases text with
  | nil => rfl
  | cons char rest =>
    cases held : cls.holds char with
    | false => simp [held]
    | true =>
      have inside : next.firstMatch? (char :: rest) accept = none :=
        avoids.firstMatch?_eq_none held
      cases next.firstMatch? ((char :: rest).dropWhile cls.holds) accept <;> simp [held, inside]

/-- A given character is taken where it stands. -/
theorem firstMatch?_char (wanted : Char) :
    (Pattern.char wanted ++ next).firstMatch? text accept =
      if text.head? = some wanted then next.firstMatch? text.tail accept else none := by
  -- The text has ended, or its first character is the wanted one or another.
  rw [firstMatch?_append, Pattern.char]
  cases text with
  | nil => rfl
  | cons char rest =>
    by_cases same : char = wanted <;> simp [firstMatch?, CharClass.holds, same]

/-- A given character is taken from a text that begins with it. -/
@[simp] theorem firstMatch?_char_cons (wanted : Char) :
    (Pattern.char wanted ++ next).firstMatch? (wanted :: rest) accept =
      next.firstMatch? rest accept := by
  rw [firstMatch?_char]
  exact if_pos rfl

/-- A name is taken as a whole, with a quote on either side where there is one. -/
theorem firstMatch?_identifier (avoidsWord : next.Avoids .word) (avoidsQuote : next.Avoids .quote) :
    (identifier ++ next).firstMatch? text accept =
      if (skipOne .quote text).head?.any isWord then
        next.firstMatch? (skipOne .quote ((skipOne .quote text).dropWhile isWord)) fun after =>
          accept ⟨⟨skipOne .quote text, (skipOne .quote text).dropWhile isWord⟩ :: after.groups,
            after.rest⟩
      else none := by
  -- Neither a word character nor a quote can begin what follows the name.
  have closing : (optional (one .quote) ++ next).Avoids .word :=
    avoidsWord.optional_append fun _ => isQuote_of_isWord
  have word : (group (longest .word)).Avoids .quote :=
    avoids_group_longest fun _ => isWord_of_isQuote
  rw [identifier, firstMatch?_assoc, firstMatch?_assoc, firstMatch?_optional_one (word.append _),
    firstMatch?_group_longest closing]
  simp only [firstMatch?_optional_one avoidsQuote]
  rfl

end Pattern

end Ddl
