import Ddl.Pattern.CharClass

/-! Patterns describe stretches of text, and are searched for with a fixed order of preference. -/

namespace Ddl

/-- A pattern for a stretch of text. -/
inductive Pattern where
  /-- The empty stretch. -/
  | empty
  /-- One character of a class. -/
  | one (cls : CharClass)
  /-- One or more characters of a class, preferring more. -/
  | longest (cls : CharClass)
  /-- One or more characters of a class, preferring fewer. -/
  | shortest (cls : CharClass)
  /-- One pattern right after another. -/
  | andThen (first second : Pattern)
  /-- One pattern or, where the match fails with it, another. -/
  | either (first second : Pattern)
  /-- A pattern whose stretch is kept as a group. -/
  | group (body : Pattern)
  /-- The empty stretch at the end of the text or before a line feed that ends it. -/
  | atEnd
  /-- The empty stretch that no word character follows. -/
  | wordEnd

/-- A stretch of text, kept as what is left of the text at its two ends. -/
structure Span where
  /-- What is left of the text where the stretch begins. -/
  start : Text
  /-- What is left of the text where the stretch has ended. -/
  stop : Text

/-- The characters of a stretch. -/
def Span.text (span : Span) : Text :=
  -- The stretch is what the text at its beginning has in front of the text at its end.
  span.start.take (span.start.length - span.stop.length)

/-- One way in which a pattern matches the beginning of a text. -/
structure Match where
  /-- The groups of the pattern, from left to right. -/
  groups : List Span
  /-- What is left of the text after the match. -/
  rest : Text

/-- The text of the group with the given number, counted from zero. -/
def Match.groupText (found : Match) (number : Nat) : Text :=
  -- A number beyond the groups gives the empty text.
  (found.groups[number]?).elim [] Span.text

namespace Pattern

/-- A pattern and one that follows it are written like two texts. -/
instance : Append Pattern := ⟨andThen⟩

/-- The pattern, or the empty stretch where the match fails with it. -/
def optional (body : Pattern) : Pattern :=
  either body empty

/-- The letters of a word one after the other, in either case, for a word in capital letters. -/
def keyword (word : String) : Pattern :=
  word.toList.foldr (fun capital later => one (.letter capital) ++ later) empty

/-- One given character. -/
def char (wanted : Char) : Pattern :=
  one (.exactly wanted)

/-- White space. -/
def spaces : Pattern :=
  longest .space

/-- White space, or nothing. -/
def someSpaces : Pattern :=
  optional spaces

/-- A name made of word characters, kept as a group, with an optional quote on either side. -/
def identifier : Pattern :=
  -- The two quotes are independent of each other, so a lone or mismatched one is allowed.
  optional (one .quote) ++ group (longest .word) ++ optional (one .quote)

/-- The first outcome that is accepted, among the ways to match the beginning of a text. -/
def firstMatch? : Pattern → Text → (Match → Option Match) → Option Match
  -- Ways are tried in order of preference, and the next one only when the text after it fails.
  | empty, text, accept => accept ⟨[], text⟩
  | one _, [], _ => none
  | one cls, char :: rest, accept => if cls.holds char then accept ⟨[], rest⟩ else none
  | longest cls, text, accept => cls.lastStop? (fun rest => accept ⟨[], rest⟩) text
  | shortest cls, text, accept => cls.firstStop? (fun rest => accept ⟨[], rest⟩) text
  | andThen first second, text, accept =>
    first.firstMatch? text fun before =>
      second.firstMatch? before.rest fun after =>
        accept ⟨before.groups ++ after.groups, after.rest⟩
  | either first second, text, accept =>
    match first.firstMatch? text accept with
    | some found => some found
    | none => second.firstMatch? text accept
  | group body, text, accept =>
    body.firstMatch? text fun found => accept ⟨⟨text, found.rest⟩ :: found.groups, found.rest⟩
  | atEnd, text, accept => if text = [] ∨ text = ['\n'] then accept ⟨[], text⟩ else none
  | wordEnd, [], accept => accept ⟨[], []⟩
  | wordEnd, char :: rest, accept => if isWord char then none else accept ⟨[], char :: rest⟩

/-- The preferred match at the beginning of a text. -/
def matchStart? (pattern : Pattern) (text : Text) : Option Match :=
  pattern.firstMatch? text some

/-- The preferred match at the first place of the text that has one. -/
def search? (pattern : Pattern) : Text → Option Match
  -- The end of the text is a place too, for patterns that match the empty stretch.
  | [] => pattern.matchStart? []
  | char :: rest =>
    match pattern.matchStart? (char :: rest) with
    | some found => some found
    | none => pattern.search? rest

/-- Whether the text has a match at some place. -/
def occursIn (pattern : Pattern) (text : Text) : Bool :=
  (pattern.search? text).isSome

end Pattern

end Ddl
