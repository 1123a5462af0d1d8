import Ddl.Pattern.Ways
import Ddl.Proofs.Case.Text

/-! A pattern that asks for no letter in one case only finds the same stretches in a text and in its
small letters. -/

namespace Ddl

open Text

namespace CharClass

/-- Whether the class has all letters in both cases or in neither. -/
def isCaseless : CharClass → Bool
  | exactly wanted => !wanted.isAlpha
  | except unwanted => !unwanted.isAlpha
  | _ => true

variable {cls : CharClass}

/-- A class that does not look at the case of letters has a letter when it has the small one. -/
theorem holds_toLower (caseless : cls.isCaseless = true) (char : Char) :
    cls.holds char.toLower = cls.holds char := by
  -- A single character is compared as it is, and the case matters unless it is no letter.
  cases cls with
  | exactly wanted =>
    rw [holds, holds, Bool.eq_iff_iff, beq_iff_eq, beq_iff_eq]
    exact toLower_eq_iff (by simpa [isCaseless] using caseless)
  | «except» unwanted =>
    rw [holds, holds, Bool.eq_iff_iff, bne_iff_ne, bne_iff_ne]
    exact not_congr (toLower_eq_iff (by simpa [isCaseless] using caseless))
  | letter capital => simp [holds]
  | space => exact isSpace_toLower char
  | word => exact isWord_toLower char
  | quote => exact isQuote_toLower char
  | anything => rfl

/-- A run stops at the same places in small letters. -/
theorem stops_lower (caseless : cls.isCaseless = true) (text : Text) :
    cls.stops text.lower = (cls.stops text).map lower := by
  -- Whether the run goes on depends on the class of each character.
  induction text with
  | nil => rfl
  | cons char rest ih =>
    rw [lower_cons, stops, stops, holds_toLower caseless, ih]
    split <;> rfl

end CharClass

/-- The stretch in small letters. -/
def Span.lower (span : Span) : Span :=
  ⟨span.start.lower, span.stop.lower⟩

/-- What a group took is in small letters. -/
theorem Span.text_lower (span : Span) : span.lower.text = span.text.lower := by
  simp [Span.text, Span.lower, Text.lower, List.map_take]

/-- The match in small letters. -/
def Match.lower (found : Match) : Match :=
  ⟨found.groups.map Span.lower, found.rest.lower⟩

/-- The text of a group is in small letters, whether or not the group was matched. -/
theorem Match.groupText_lower (found : Match) (number : Nat) :
    found.lower.groupText number = (found.groupText number).lower := by
  -- The group with the number is the same one in both matches, if there is such a group.
  rw [Match.groupText, Match.groupText, Match.lower, List.getElem?_map]
  cases found.groups[number]? with
  | none => rfl
  | some span => exact span.text_lower

namespace Pattern

/-- Whether no class of the pattern has a letter in one case only. -/
def isCaseless : Pattern → Bool
  | empty | atEnd | wordEnd => true
  | one cls | longest cls | shortest cls => cls.isCaseless
  | andThen first second | either first second => first.isCaseless && second.isCaseless
  | group body => body.isCaseless

variable {pattern : Pattern}

/-- All ways to match are the same ones. -/
theorem ways_lower (caseless : pattern.isCaseless = true) (text : Text) :
    pattern.ways text.lower = (pattern.ways text).map Match.lower := by
  -- The ways of a pattern are built from those of its parts, which are the same by induction.
  induction pattern generalizing text with
  | empty => rfl
  | one cls =>
    cases text with
    | nil => rfl
    | cons char rest =>
      rw [lower_cons, ways, ways, CharClass.holds_toLower caseless]
      split <;> rfl
  | longest cls =>
    -- The class can stop at the same places, and the last one comes first.
    rw [ways, ways, CharClass.stops_lower caseless, ← List.map_reverse, List.map_map, List.map_map]
    rfl
  | shortest cls =>
    rw [ways, ways, CharClass.stops_lower caseless, List.map_map, List.map_map]
    rfl
  | andThen first second firstWays secondWays =>
    rw [isCaseless, Bool.and_eq_true] at caseless
    rw [ways, ways, firstWays caseless.1, List.flatMap_map, List.map_flatMap]
    -- What the first pattern leaves in small letters is matched like what it leaves.
    congr 1
    funext before
    have behind : before.lower.rest = before.rest.lower := rfl
    rw [behind, secondWays caseless.2, List.map_map, List.map_map]
    simp [Match.lower, Function.comp_def]
  | either first second firstWays secondWays =>
    rw [isCaseless, Bool.and_eq_true] at caseless
    rw [ways, ways, firstWays caseless.1, secondWays caseless.2, List.map_append]
  | group body bodyWays =>
    rw [ways, ways, bodyWays caseless, List.map_map, List.map_map]
    rfl
  | atEnd =>
    -- Only the end of the text and the line feed before it matter, and neither is a letter.
    have ended : text.lower = [] ∨ text.lower = ['\n'] ↔ text = [] ∨ text = ['\n'] := by
      have feed : ∀ {char : Char}, char.toLower = '\n' ↔ char = '\n' :=
        toLower_eq_iff (by decide)
      rcases text with _ | ⟨char, _ | ⟨second, rest⟩⟩
      · simp
      · simp [feed]
      · simp
    simp only [ways, ended]
    split <;> rfl
  | wordEnd =>
    cases text with
    | nil => rfl
    | cons char rest =>
      rw [lower_cons, ways, ways, isWord_toLower]
      split <;> rfl

/-- The match at the beginning is the same one. -/
theorem matchStart?_lower (caseless : pattern.isCaseless = true) (text : Text) :
    pattern.matchStart? text.lower = (pattern.matchStart? text).map Match.lower := by
  rw [matchStart?_eq_head?, ways_lower caseless, List.head?_map, matchStart?_eq_head?]

/-- The first match stands at the same place. -/
theorem search?_lower (caseless : pattern.isCaseless = true) (text : Text) :
    pattern.search? text.lower = (pattern.search? text).map Match.lower := by
  -- The places are tried in the same order, and a match is found at the first one that has one.
  induction text with
  | nil => exact matchStart?_lower caseless []
  | cons char rest ih =>
    have here := matchStart?_lower caseless (char :: rest)
    rw [lower_cons] at here ⊢
    rw [search?, search?, here, ih]
    cases pattern.matchStart? (char :: rest) <;> rfl

/-- A pattern occurs in small letters when it occurs. -/
theorem occursIn_lower (caseless : pattern.isCaseless = true) (text : Text) :
    pattern.occursIn text.lower = pattern.occursIn text := by
  rw [occursIn, search?_lower caseless, Option.isSome_map, occursIn]

end Pattern

end Ddl
