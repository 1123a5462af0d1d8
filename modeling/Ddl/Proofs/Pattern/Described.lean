import Ddl.Pattern.Ways
import Ddl.Proofs.Pattern.Steps

/-! A pattern describes stretches of text, and its ways to match are just the stretches that it
describes. -/

namespace Ddl

namespace CharClass

variable {cls : CharClass} {text rest : Text}

/-- One or more characters, all of them of a class. -/
structure IsRun (cls : CharClass) (run : Text) : Prop where
  present : run ≠ []
  held : ∀ char ∈ run, cls.holds char = true

/-- A stop stands behind each run with which the text begins. -/
theorem mem_stops_iff : rest ∈ cls.stops text ↔ ∃ run, text = run ++ rest ∧ cls.IsRun run := by
  -- The run is followed character by character.
  induction text with
  | nil =>
    -- A run has a character, which is not there.
    constructor
    · intro stop
      cases stop
    · intro found
      obtain ⟨run, split, isRun⟩ := found
      exact absurd (List.append_eq_nil_iff.mp split.symm).1 isRun.present
  | cons char later ih =>
    cases held : cls.holds char with
    | false =>
      rw [stops_cons_of_not_holds later held]
      constructor
      · intro stop
        cases stop
      · intro found
        obtain ⟨run, split, isRun⟩ := found
        obtain ⟨first, others, rfl⟩ := List.exists_cons_of_ne_nil isRun.present
        obtain ⟨rfl, -⟩ := List.cons.inj split
        have inside := isRun.held char List.mem_cons_self
        rw [held] at inside
        cases inside
    | true =>
      rw [stops, if_pos held, List.mem_cons, ih]
      constructor
      · intro stop
        -- The run is the first character alone, or it goes on.
        rcases stop with rfl | ⟨run, rfl, isRun⟩
        · exact ⟨[char], rfl, by simp, by simpa using held⟩
        · exact ⟨char :: run, rfl, by simp, List.forall_mem_cons.mpr ⟨held, isRun.held⟩⟩
      · intro found
        obtain ⟨run, split, isRun⟩ := found
        obtain ⟨first, others, rfl⟩ := List.exists_cons_of_ne_nil isRun.present
        obtain ⟨rfl, rfl⟩ := List.cons.inj split
        cases others with
        | nil => exact .inl rfl
        | cons second others =>
          have onward := (List.forall_mem_cons.mp isRun.held).2
          exact .inr ⟨second :: others, rfl, by simp, onward⟩

end CharClass

/-- The groups of a match are told by their texts. -/
theorem Match.groupText_eq (found : Match) (number : Nat) :
    found.groupText number = (found.groups.map Span.text)[number]?.getD [] := by
  rw [groupText, List.getElem?_map]
  cases found.groups[number]? <;> rfl

namespace Pattern

/-- The pattern describes a stretch of text with the given groups in it, in front of a rest. -/
inductive Describes : Pattern → Text → List Text → Text → Prop
  /-- The empty stretch can stand everywhere. -/
  | empty {rest : Text} : Describes empty [] [] rest
  | one {cls : CharClass} {char : Char} {rest : Text} (held : cls.holds char = true) :
    Describes (one cls) [char] [] rest
  /-- Which run is preferred makes no difference to what can be matched. -/
  | longest {cls : CharClass} {run rest : Text} (isRun : cls.IsRun run) :
    Describes (longest cls) run [] rest
  | shortest {cls : CharClass} {run rest : Text} (isRun : cls.IsRun run) :
    Describes (shortest cls) run [] rest
  /-- The second stretch is a part of what follows the first one. -/
  | andThen {first second : Pattern} {front back rest : Text} {frontGroups backGroups : List Text}
    (before : Describes first front frontGroups (back ++ rest))
    (after : Describes second back backGroups rest) :
    Describes (andThen first second) (front ++ back) (frontGroups ++ backGroups) rest
  | inFirst {first second : Pattern} {stretch rest : Text} {groups : List Text}
    (described : Describes first stretch groups rest) :
    Describes (either first second) stretch groups rest
  | inSecond {first second : Pattern} {stretch rest : Text} {groups : List Text}
    (described : Describes second stretch groups rest) :
    Describes (either first second) stretch groups rest
  /-- A group that is kept stands in front of the groups inside of it. -/
  | group {body : Pattern} {stretch rest : Text} {groups : List Text}
    (described : Describes body stretch groups rest) :
    Describes (group body) stretch (stretch :: groups) rest
  | atEnd {rest : Text} (ended : rest = [] ∨ rest = ['\n']) : Describes atEnd [] [] rest
  | wordEnd {rest : Text} (outside : rest.head?.any isWord = false) : Describes wordEnd [] [] rest

variable {pattern first second : Pattern} {text stretch rest : Text} {groups : List Text}
  {found : Match}

/-- A way to match takes a stretch that the pattern describes. -/
theorem describes_of_mem_ways (way : found ∈ pattern.ways text) : ∃ stretch,
    text = stretch ++ found.rest ∧
      pattern.Describes stretch (found.groups.map Span.text) found.rest := by
  -- The induction follows the pattern, with any text and any way.
  induction pattern generalizing text found with
  | empty =>
    obtain rfl := List.mem_singleton.mp way
    exact ⟨[], rfl, .empty⟩
  | one cls =>
    -- The one character is there and belongs to the class.
    cases text with
    | nil => cases way
    | cons char later =>
      rw [ways] at way
      split at way
      · rename_i held
        obtain rfl := List.mem_singleton.mp way
        exact ⟨[char], rfl, .one held⟩
      · cases way
  | longest cls =>
    -- The order in which the stops are tried does not matter for what stands in front of them.
    obtain ⟨rest, stop, rfl⟩ := List.mem_map.mp way
    obtain ⟨run, rfl, isRun⟩ := CharClass.mem_stops_iff.mp (List.mem_reverse.mp stop)
    exact ⟨run, rfl, .longest isRun⟩
  | shortest cls =>
    obtain ⟨rest, stop, rfl⟩ := List.mem_map.mp way
    obtain ⟨run, rfl, isRun⟩ := CharClass.mem_stops_iff.mp stop
    exact ⟨run, rfl, .shortest isRun⟩
  | andThen first second firstWays secondWays =>
    simp only [ways, List.mem_flatMap, List.mem_map] at way
    obtain ⟨before, firstWay, after, secondWay, rfl⟩ := way
    obtain ⟨front, rfl, inFront⟩ := firstWays firstWay
    obtain ⟨back, behind, inBack⟩ := secondWays secondWay
    -- The second stretch begins where the first one has ended.
    rw [behind] at inFront ⊢
    refine ⟨front ++ back, by simp, ?_⟩
    rw [List.map_append]
    exact .andThen inFront inBack
  | either first second firstWays secondWays =>
    rcases List.mem_append.mp way with way | way
    · obtain ⟨stretch, split, described⟩ := firstWays way
      exact ⟨stretch, split, .inFirst described⟩
    · obtain ⟨stretch, split, described⟩ := secondWays way
      exact ⟨stretch, split, .inSecond described⟩
  | group body bodyWays =>
    obtain ⟨inner, innerWay, rfl⟩ := List.mem_map.mp way
    obtain ⟨stretch, rfl, described⟩ := bodyWays innerWay
    refine ⟨stretch, rfl, ?_⟩
    -- The span that is kept reaches from the text to its rest, so its text is the stretch.
    rw [List.map_cons, Span.text_append]
    exact .group described
  | atEnd =>
    rw [ways] at way
    split at way
    · rename_i ended
      obtain rfl := List.mem_singleton.mp way
      exact ⟨[], rfl, .atEnd ended⟩
    · cases way
  | wordEnd =>
    cases text with
    | nil =>
      obtain rfl := List.mem_singleton.mp way
      exact ⟨[], rfl, .wordEnd rfl⟩
    | cons char later =>
      rw [ways] at way
      split at way
      · cases way
      · rename_i outside
        obtain rfl := List.mem_singleton.mp way
        exact ⟨[], rfl, .wordEnd (by simpa using outside)⟩

/-- What a pattern describes can be matched, and with the same groups. -/
theorem Describes.exists_way (described : pattern.Describes stretch groups rest) :
    ∃ found ∈ pattern.ways (stretch ++ rest), found.groups.map Span.text = groups ∧
      found.rest = rest := by
  -- Each constructor has its own way among those that are listed for its pattern.
  induction described with
  | empty => exact ⟨⟨[], _⟩, List.mem_singleton.mpr rfl, rfl, rfl⟩
  | one held => exact ⟨⟨[], _⟩, by simp [ways, held], rfl, rfl⟩
  | @longest cls run rest isRun =>
    have stop : rest ∈ cls.stops (run ++ rest) := CharClass.mem_stops_iff.mpr ⟨_, rfl, isRun⟩
    exact ⟨⟨[], _⟩, List.mem_map.mpr ⟨_, List.mem_reverse.mpr stop, rfl⟩, rfl, rfl⟩
  | @shortest cls run rest isRun =>
    have stop : rest ∈ cls.stops (run ++ rest) := CharClass.mem_stops_iff.mpr ⟨_, rfl, isRun⟩
    exact ⟨⟨[], _⟩, List.mem_map.mpr ⟨_, stop, rfl⟩, rfl, rfl⟩
  | andThen _ _ firstWays secondWays =>
    obtain ⟨before, firstWay, frontGroups, behind⟩ := firstWays
    obtain ⟨after, secondWay, backGroups, left⟩ := secondWays
    -- The first way leaves the text on which the second one is tried.
    rw [← behind] at secondWay
    refine ⟨⟨before.groups ++ after.groups, after.rest⟩, ?_, ?_, left⟩
    · rw [List.append_assoc]
      exact List.mem_flatMap.mpr ⟨before, firstWay, List.mem_map.mpr ⟨after, secondWay, rfl⟩⟩
    · rw [List.map_append, frontGroups, backGroups]
  | inFirst _ firstWays =>
    obtain ⟨found, way, same⟩ := firstWays
    exact ⟨found, List.mem_append_left _ way, same⟩
  | inSecond _ secondWays =>
    obtain ⟨found, way, same⟩ := secondWays
    exact ⟨found, List.mem_append_right _ way, same⟩
  | group _ bodyWays =>
    obtain ⟨inner, way, innerGroups, rfl⟩ := bodyWays
    refine ⟨_, List.mem_map.mpr ⟨inner, way, rfl⟩, ?_, rfl⟩
    rw [List.map_cons, Span.text_append, innerGroups]
  | atEnd ended => exact ⟨⟨[], _⟩, by simp [ways, ended], rfl, rfl⟩
  | @wordEnd rest outside =>
    refine ⟨⟨[], rest⟩, ?_, rfl, rfl⟩
    -- The end of the text ends a word as well as a character that is none of its own.
    cases rest with
    | nil => exact List.mem_singleton.mpr rfl
    | cons char later =>
      have other : isWord char = false := by simpa using outside
      simp [ways, other]

/-- Every group stands in the stretch. -/
theorem Describes.infix_of_mem (described : pattern.Describes stretch groups rest) :
    ∀ part ∈ groups, part <:+: stretch := by
  -- Groups come from sequences, which have longer stretches, and from the stretches that are kept.
  induction described with
  | empty | one | longest | shortest | atEnd | wordEnd => simp
  | andThen _ _ inFront inBack =>
    intro part member
    rcases List.mem_append.mp member with member | member
    · exact (inFront part member).trans (List.prefix_append _ _).isInfix
    · exact (inBack part member).trans (List.suffix_append _ _).isInfix
  | inFirst _ inside => exact inside
  | inSecond _ inside => exact inside
  | group _ inside => exact List.forall_mem_cons.mpr ⟨List.infix_rfl, inside⟩

/-- The empty pattern describes the empty stretch, without groups. -/
@[simp] theorem describes_empty_iff :
    empty.Describes stretch groups rest ↔ stretch = [] ∧ groups = [] := by
  -- There is one constructor for it.
  constructor
  · intro described
    cases described
    exact ⟨rfl, rfl⟩
  · intro nothing
    obtain ⟨rfl, rfl⟩ := nothing
    exact .empty

/-- Two patterns in a row describe two stretches in a row. -/
theorem describes_append_iff : (first ++ second).Describes stretch groups rest ↔
    ∃ front back frontGroups backGroups, stretch = front ++ back ∧
      groups = frontGroups ++ backGroups ∧ first.Describes front frontGroups (back ++ rest) ∧
        second.Describes back backGroups rest := by
  -- The one constructor says where the stretch is cut.
  constructor
  · intro described
    cases described with
    | andThen before after => exact ⟨_, _, _, _, rfl, rfl, before, after⟩
  · intro split
    obtain ⟨front, back, frontGroups, backGroups, rfl, rfl, before, after⟩ := split
    exact .andThen before after

/-- Two stretches in a row are described by two patterns in a row. -/
theorem Describes.append {front back : Text} {frontGroups backGroups : List Text}
    (before : first.Describes front frontGroups (back ++ rest))
    (after : second.Describes back backGroups rest) :
    (first ++ second).Describes (front ++ back) (frontGroups ++ backGroups) rest :=
  .andThen before after

/-- The last piece of a row comes off as what its pattern is known to describe. -/
theorem Describes.exists_last {Piece : Type} {written : Piece → Text} {kept : Piece → List Text}
    (last : ∀ {stretch groups rest}, second.Describes stretch groups rest →
      ∃ piece, stretch = written piece ∧ groups = kept piece)
    (described : (first ++ second).Describes stretch groups rest) :
    ∃ piece front frontGroups, stretch = front ++ written piece ∧
      groups = frontGroups ++ kept piece ∧
        first.Describes front frontGroups (written piece ++ rest) := by
  obtain ⟨front, _, frontGroups, _, rfl, rfl, before, after⟩ := describes_append_iff.mp described
  -- What the first pattern describes is then in front of the piece as it is written.
  obtain ⟨piece, rfl, rfl⟩ := last after
  exact ⟨piece, front, frontGroups, rfl, rfl, before⟩

/-- What may be left out describes the empty stretch as well. -/
theorem describes_optional_iff : (optional pattern).Describes stretch groups rest ↔
    pattern.Describes stretch groups rest ∨ (stretch = [] ∧ groups = []) := by
  -- The pattern is taken, or the empty one in its place.
  rw [optional, ← describes_empty_iff]
  constructor
  · intro described
    cases described with
    | inFirst described => exact .inl described
    | inSecond described => exact .inr described
  · intro described
    exact described.elim .inFirst .inSecond

/-- A class describes each of its characters. -/
theorem describes_one_iff {cls : CharClass} : (one cls).Describes stretch groups rest ↔
    (∃ char, cls.holds char = true ∧ stretch = [char]) ∧ groups = [] := by
  -- There is one constructor for it.
  constructor
  · intro described
    cases described with
    | one held => exact ⟨⟨_, held, rfl⟩, rfl⟩
  · intro single
    obtain ⟨⟨char, held, rfl⟩, rfl⟩ := single
    exact .one held

/-- A run of a class is described when it is one. -/
theorem describes_longest_iff {cls : CharClass} : (longest cls).Describes stretch groups rest ↔
    cls.IsRun stretch ∧ groups = [] := by
  -- How long the run may be does not matter for what it is.
  constructor
  · intro described
    cases described with
    | longest isRun => exact ⟨isRun, rfl⟩
  · intro run
    obtain ⟨isRun, rfl⟩ := run
    exact .longest isRun

/-- A group describes what its pattern does, and keeps the stretch. -/
theorem describes_group_iff : (group pattern).Describes stretch groups rest ↔
    ∃ inside, groups = stretch :: inside ∧ pattern.Describes stretch inside rest := by
  -- The stretch comes in front of the groups that are inside.
  constructor
  · intro described
    cases described with
    | group described => exact ⟨_, rfl, described⟩
  · intro kept
    obtain ⟨inside, rfl, described⟩ := kept
    exact .group described

/-- A given character describes itself alone. -/
@[simp] theorem describes_char_iff {wanted : Char} :
    (Pattern.char wanted).Describes stretch groups rest ↔ stretch = [wanted] ∧ groups = [] := by
  simp [Pattern.char, describes_one_iff, CharClass.holds]

/-- A character at the end of a pattern is the last one of the stretch. -/
theorem Describes.exists_last_char {wanted : Char}
    (described : (first ++ Pattern.char wanted).Describes stretch groups rest) :
    ∃ front frontGroups, stretch = front ++ [wanted] ∧ groups = frontGroups ++ [] ∧
      first.Describes front frontGroups ([wanted] ++ rest) := by
  obtain ⟨front, _, frontGroups, _, rfl, rfl, before, after⟩ := describes_append_iff.mp described
  obtain ⟨rfl, rfl⟩ := describes_char_iff.mp after
  exact ⟨front, frontGroups, rfl, rfl, before⟩

/-- A given character is described by its pattern. -/
theorem describes_char (wanted : Char) : (Pattern.char wanted).Describes [wanted] [] rest :=
  describes_char_iff.mpr ⟨rfl, rfl⟩

/-- A match at the beginning of a text takes a stretch that the pattern describes. -/
theorem describes_of_matchStart? (matched : pattern.matchStart? text = some found) : ∃ stretch,
    text = stretch ++ found.rest ∧
      pattern.Describes stretch (found.groups.map Span.text) found.rest := by
  rw [matchStart?_eq_head?] at matched
  exact describes_of_mem_ways (List.mem_of_mem_head? matched)

/-- The pattern has a way to match the beginning of the text. -/
def Matches (pattern : Pattern) (text : Text) : Prop :=
  pattern.ways text ≠ []

/-- There is a first match when there is any way to match. -/
theorem isSome_matchStart?_iff : (pattern.matchStart? text).isSome = true ↔
    pattern.Matches text := by
  rw [matchStart?_eq_head?, Matches, List.isSome_head?]

/-- A pattern matches the beginning of a text when the text begins with what it describes. -/
theorem matches_iff : pattern.Matches text ↔
    ∃ stretch groups rest, text = stretch ++ rest ∧ pattern.Describes stretch groups rest := by
  constructor
  · intro found
    -- Any way will do, be it the preferred one or another.
    obtain ⟨found, way⟩ := List.exists_mem_of_ne_nil _ found
    obtain ⟨stretch, split, described⟩ := describes_of_mem_ways way
    exact ⟨stretch, _, _, split, described⟩
  · intro described
    obtain ⟨stretch, groups, rest, rfl, described⟩ := described
    obtain ⟨found, way, -⟩ := described.exists_way
    exact List.ne_nil_of_mem way

/-- A pattern matches with another one behind it when the other one matches what a way leaves. -/
theorem matches_append_iff : (first ++ second).Matches text ↔
    ∃ before ∈ first.ways text, second.Matches before.rest := by
  -- The ways of both are listed together, for each way of the first one.
  have ways : (first ++ second).ways text = (first.ways text).flatMap fun before =>
      (second.ways before.rest).map fun after =>
        ⟨before.groups ++ after.groups, after.rest⟩ := rfl
  simp [Matches, ways]

/-- Where a pattern matches, its first half does. -/
theorem Matches.left (found : (first ++ second).Matches text) : first.Matches text := by
  obtain ⟨before, way, -⟩ := matches_append_iff.mp found
  exact List.ne_nil_of_mem way

/-- A pattern occurs in a text when it matches what is left of the text from some place on. -/
theorem occursIn_iff {pattern : Pattern} :
    pattern.occursIn text = true ↔ ∃ rest, rest <:+ text ∧ pattern.Matches rest := by
  rw [occursIn]
  induction text with
  | nil => simp [search?, isSome_matchStart?_iff]
  | cons char later ih =>
    simp only [List.suffix_cons_iff, or_and_right, exists_or, exists_eq_left, ← ih, search?]
    rw [← isSome_matchStart?_iff]
    -- The search goes on only where nothing is found.
    cases pattern.matchStart? (char :: later) <;> simp

/-- A pattern that matches wherever another one does occurs wherever the other one occurs. -/
theorem occursIn_of_matches (weaker : ∀ rest, first.Matches rest → second.Matches rest)
    (occurs : first.occursIn text = true) : second.occursIn text = true := by
  obtain ⟨rest, suffix, found⟩ := occursIn_iff.mp occurs
  exact occursIn_iff.mpr ⟨rest, suffix, weaker rest found⟩

/-- A word has ended where white space follows. -/
theorem wordEnd_matches_of_spaces (found : spaces.Matches text) : wordEnd.Matches text := by
  -- White space is no word character.
  cases text with
  | nil => exact absurd rfl found
  | cons char rest =>
    cases blank : isSpace char with
    | true => simp [Matches, ways, isWord_of_isSpace blank]
    | false => simp [Matches, spaces, ways, CharClass.stops, CharClass.holds, blank] at found

/-- A search tries the first place, and then those behind it. -/
theorem search?_cons (pattern : Pattern) (char : Char) (later : Text) :
    pattern.search? (char :: later) =
      (pattern.matchStart? (char :: later)).or (pattern.search? later) := by
  rw [search?]
  cases pattern.matchStart? (char :: later) <;> rfl

/-- A search finds nothing when there is no match at any place. -/
theorem search?_eq_none_iff : pattern.search? text = none ↔
    ∀ place, pattern.matchStart? (text.drop place) = none := by
  induction text with
  | nil => simp [search?]
  | cons char later ih =>
    rw [search?_cons, Option.or_eq_none_iff, ih]
    constructor
    · intro missing place
      -- The first place is the whole text, and the others are places of what is left.
      cases place with
      | zero => exact missing.1
      | succ place => exact missing.2 place
    · intro missing
      exact ⟨missing 0, fun place => missing (place + 1)⟩

/-- A search finds the match at the first place that has one. -/
theorem search?_eq_some_iff : pattern.search? text = some found ↔
    ∃ place, pattern.matchStart? (text.drop place) = some found ∧
      ∀ earlier < place, pattern.matchStart? (text.drop earlier) = none := by
  -- The first place of a text is the beginning, or it is counted from the second character.
  induction text with
  | nil =>
    simp only [search?, List.drop_nil]
    constructor
    · intro matched
      exact ⟨0, matched, by simp⟩
    · intro matched
      obtain ⟨_, matched, -⟩ := matched
      exact matched
  | cons char later ih =>
    rw [search?_cons, Option.or_eq_some_iff, ih]
    constructor
    · intro matched
      rcases matched with matched | ⟨missing, place, matched, none⟩
      · exact ⟨0, matched, by simp⟩
      · refine ⟨place + 1, matched, fun earlier before => ?_⟩
        cases earlier with
        | zero => exact missing
        | succ earlier => exact none earlier (by omega)
    · intro matched
      obtain ⟨place, matched, none⟩ := matched
      -- Behind the very beginning nothing is found there.
      cases place with
      | zero => exact .inl matched
      | succ place =>
        refine .inr ⟨none 0 place.succ_pos, place, matched, fun earlier before => ?_⟩
        exact none (earlier + 1) (by omega)

/-- What a search finds is a stretch of the text that the pattern describes. -/
theorem describes_of_search? (searched : pattern.search? text = some found) :
    ∃ front stretch, text = front ++ (stretch ++ found.rest) ∧
      pattern.Describes stretch (found.groups.map Span.text) found.rest := by
  obtain ⟨place, matched, -⟩ := search?_eq_some_iff.mp searched
  obtain ⟨stretch, split, described⟩ := describes_of_matchStart? matched
  exact ⟨text.take place, stretch, by rw [← split, List.take_append_drop], described⟩

/-- All groups of what a search finds stand in the text. -/
theorem exists_describes_of_search? (searched : pattern.search? text = some found) : ∃ stretch,
    pattern.Describes stretch (found.groups.map Span.text) found.rest ∧
      ∀ part ∈ found.groups.map Span.text, part <:+: text := by
  obtain ⟨front, stretch, rfl, described⟩ := describes_of_search? searched
  have inside : stretch <:+: front ++ (stretch ++ found.rest) := ⟨front, found.rest, by simp⟩
  exact ⟨stretch, described, fun part member => (described.infix_of_mem part member).trans inside⟩

/-- A search finds something when what the pattern describes stands in the text. -/
theorem isSome_search?_iff : (pattern.search? text).isSome = true ↔
    ∃ stretch groups front rest, text = front ++ (stretch ++ rest) ∧
      pattern.Describes stretch groups rest := by
  constructor
  · intro isFound
    obtain ⟨found, searched⟩ := Option.isSome_iff_exists.mp isFound
    obtain ⟨front, stretch, split, described⟩ := describes_of_search? searched
    exact ⟨stretch, _, front, _, split, described⟩
  · intro stands
    obtain ⟨stretch, groups, front, rest, rfl, described⟩ := stands
    -- The search can only stop earlier, at a place where it has found something else.
    have inside : stretch ++ rest <:+ front ++ (stretch ++ rest) := List.suffix_append _ _
    exact occursIn_iff.mpr ⟨_, inside, matches_iff.mpr ⟨stretch, groups, rest, rfl, described⟩⟩

end Pattern

end Ddl
