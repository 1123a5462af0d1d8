import Ddl.Pattern.Basic

/-! A match is the first of all the ways to match, which this module lists. -/

namespace Ddl

namespace CharClass

/-- What is left of the text after one, two and more characters of the class, as far as they go. -/
def stops (cls : CharClass) : Text → List Text
  -- The first character outside the class ends the run, and there is no stop before the first one.
  | [] => []
  | char :: rest => if cls.holds char then rest :: cls.stops rest else []

/-- Trying shorter runs first is trying all stops in order. -/
theorem firstStop?_eq_findSome? {Outcome : Type} (cls : CharClass) (accept : Text → Option Outcome)
    (text : Text) : cls.firstStop? accept text = (cls.stops text).findSome? accept := by
  -- Each character of the class adds its stop in front of the later ones.
  induction text with
  | nil => rfl
  | cons char rest ih =>
    cases held : cls.holds char
    · simp [firstStop?, stops, held]
    · cases outcome : accept rest <;> simp [firstStop?, stops, held, outcome, ih]

/-- Trying longer runs first is trying all stops in reverse order. -/
theorem lastStop?_eq_findSome? {Outcome : Type} (cls : CharClass) (accept : Text → Option Outcome)
    (text : Text) : cls.lastStop? accept text = (cls.stops text).reverse.findSome? accept := by
  -- Each character of the class adds its stop behind the later ones.
  induction text with
  | nil => rfl
  | cons char rest ih =>
    cases held : cls.holds char
    · simp [lastStop?, stops, held]
    · simp only [lastStop?, stops, held, if_true, ih, List.reverse_cons, List.findSome?_append]
      cases (cls.stops rest).reverse.findSome? accept <;> simp

end CharClass

namespace Pattern

/-- All ways to match the beginning of a text, the preferred one first. -/
def ways : Pattern → Text → List Match
  -- Each pattern hands on the texts that it leaves, in its own order of preference.
  | empty, text => [⟨[], text⟩]
  | one _, [] => []
  | one cls, char :: rest => if cls.holds char then [⟨[], rest⟩] else []
  | longest cls, text => (cls.stops text).reverse.map fun rest => ⟨[], rest⟩
  | shortest cls, text => (cls.stops text).map fun rest => ⟨[], rest⟩
  | andThen first second, text =>
    (first.ways text).flatMap fun before =>
      (second.ways before.rest).map fun after =>
        ⟨before.groups ++ after.groups, after.rest⟩
  | either first second, text => first.ways text ++ second.ways text
  | group body, text =>
    (body.ways text).map fun found => ⟨⟨text, found.rest⟩ :: found.groups, found.rest⟩
  | atEnd, text => if text = [] ∨ text = ['\n'] then [⟨[], text⟩] else []
  | wordEnd, [] => [⟨[], []⟩]
  | wordEnd, char :: rest => if isWord char then [] else [⟨[], char :: rest⟩]

/-- Trying ways one after another finds the first acceptable one of all of them. -/
theorem firstMatch?_eq_findSome? (pattern : Pattern) :
    ∀ text accept, pattern.firstMatch? text accept = (pattern.ways text).findSome? accept := by
  -- The sequence is the one case that nests: each way of its first half is tried with the second.
  induction pattern with
  | empty => intro text accept; simp [firstMatch?, ways]
  | one cls =>
    intro text accept
    cases text with
    | nil => rfl
    | cons char rest => cases held : cls.holds char <;> simp [firstMatch?, ways, held]
  -- The stops of a repetition are tried in the order in which its ways are listed.
  | longest cls =>
    intro text accept
    rw [firstMatch?, ways, CharClass.lastStop?_eq_findSome?, List.findSome?_map]
    rfl
  | shortest cls =>
    intro text accept
    rw [firstMatch?, ways, CharClass.firstStop?_eq_findSome?, List.findSome?_map]
    rfl
  | andThen first second firstWays secondWays =>
    intro text accept
    simp only [firstMatch?, ways, firstWays, secondWays]
    -- The first way of the first half that the second half goes on from decides.
    induction first.ways text with
    | nil => rfl
    | cons before later ih =>
      rw [List.findSome?_cons, List.flatMap_cons, List.findSome?_append, List.findSome?_map, ih]
      cases found : (second.ways before.rest).findSome? fun after =>
          accept ⟨before.groups ++ after.groups, after.rest⟩ <;> simp [Function.comp_def, found]
  | either first second firstWays secondWays =>
    intro text accept
    rw [firstMatch?, ways, firstWays, secondWays, List.findSome?_append]
    cases (first.ways text).findSome? accept <;> rfl
  | group body bodyWays =>
    intro text accept
    simp [firstMatch?, ways, bodyWays, List.findSome?_map, Function.comp_def]
  | atEnd =>
    intro text accept
    by_cases ended : text = [] ∨ text = ['\n'] <;> simp [firstMatch?, ways, ended]
  | wordEnd =>
    intro text accept
    cases text with
    | nil => simp [firstMatch?, ways]
    | cons char rest => cases word : isWord char <;> simp [firstMatch?, ways, word]

/-- The match at the beginning of a text is the preferred one of all ways. -/
theorem matchStart?_eq_head? (pattern : Pattern) (text : Text) :
    pattern.matchStart? text = (pattern.ways text).head? := by
  -- Accepting every way accepts the first one.
  rw [matchStart?, firstMatch?_eq_findSome?]
  cases pattern.ways text <;> rfl

end Pattern

end Ddl
