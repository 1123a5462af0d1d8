import Ddl.Json.Token

/-! A JSON value is put together from tokens, and a text that is no value has one fault. -/

namespace Ddl

namespace Json

/-- The greatest number of containers that may be open at once. -/
def maxDepth : Nat :=
  967

/-- Why a text gives no value. -/
inductive Fault where
  /-- The text is not JSON, which shows where the given characters are left. -/
  | malformed (rest : Source)
  /-- Too many containers stand inside of each other. -/
  | tooDeep
  /-- An integer has too many digits. -/
  | hugeInteger

/-- A container of which only a part is read. -/
inductive Frame where
  /-- An array with the items so far, the last one first. -/
  | array (items : List Json)
  /-- An object with the fields so far, the last one first. -/
  | object (fields : List (Text × Json))
  /-- An object whose next field has a name, unless the name is no text, and no value yet. -/
  | field (fields : List (Text × Json)) (name? : Option Text)

/-- What has to come next. -/
inductive Expectation where
  /-- A value. -/
  | value
  /-- A value, or the end of the array that was opened last. -/
  | firstItem
  /-- The name of a field. -/
  | name
  /-- The name of a field, or the end of the object that was opened last. -/
  | firstName
  /-- The colon after the name of a field. -/
  | colon
  /-- A comma, or the end of the innermost container. -/
  | separator
  /-- Nothing, since the value of the whole text is complete. -/
  | nothing (whole : Json)

/-- A text that is read up to some token. -/
structure Reading where
  /-- The containers that are open, the innermost one first. -/
  frames : List Frame
  /-- What has to come next. -/
  expects : Expectation

namespace Reading

/-- The reading before the first token. -/
def start : Reading :=
  ⟨[], .value⟩

/-- The reading after a value is complete within the given containers. -/
def complete (value : Json) : List Frame → Reading
  -- A field whose name is no text is left out, since nobody can ask for it.
  | [] => ⟨[], .nothing value⟩
  | .array items :: outer => ⟨.array (value :: items) :: outer, .separator⟩
  | .field fields (some name) :: outer => ⟨.object ((name, value) :: fields) :: outer, .separator⟩
  | .field fields none :: outer => ⟨.object fields :: outer, .separator⟩
  | .object fields :: outer => ⟨.object fields :: outer, .separator⟩

/-- The reading after the end of the innermost container, if the token ends it. -/
def close? : List Frame → Token → Option Reading
  | .array items :: outer, .closeArray => some (complete (.array items.reverse) outer)
  | .object fields :: outer, .closeObject => some (complete (.object fields.reverse) outer)
  | _, _ => none

/-- The reading after a container is opened by a token, unless too many are open. -/
def enter (frames : List Frame) (frame : Frame) (expects : Expectation) : Except Fault Reading :=
  if frames.length < maxDepth then .ok ⟨frame :: frames, expects⟩ else .error .tooDeep

/-- The reading after a token that begins a value, told what is left at the token. -/
def readValue (frames : List Frame) (place : Source) : Token → Except Fault Reading
  | .openObject => enter frames (.object []) .firstName
  | .openArray => enter frames (.array []) .firstItem
  | .string chars => .ok (complete (ofRaw chars) frames)
  | .scalar value => .ok (complete value frames)
  | .hugeInteger => .error .hugeInteger
  | .badString fault => .error (.malformed fault)
  | _ => .error (.malformed place)

/-- The reading after the name of a field, told what is left at the token. -/
def readName (frames : List Frame) (place : Source) : Token → Except Fault Reading
  | .string chars =>
    match frames with
    | .object fields :: outer => .ok ⟨.field fields (RawText.text? chars) :: outer, .colon⟩
    | _ => .error (.malformed place)
  | .badString fault => .error (.malformed fault)
  | _ => .error (.malformed place)

/-- The reading after a comma, told what is left at the token. -/
def readComma (frames : List Frame) (place : Source) : Token → Except Fault Reading
  | .comma =>
    match frames with
    | .array items :: outer => .ok ⟨.array items :: outer, .value⟩
    | .object fields :: outer => .ok ⟨.object fields :: outer, .name⟩
    | _ => .error (.malformed place)
  | _ => .error (.malformed place)

/-- The reading after one more token. -/
def step (reading : Reading) (next : PlacedToken) : Except Fault Reading :=
  -- A fault stands where the token begins, or within a string where a value or name may come.
  match reading.expects, next.token with
  | .value, token => readValue reading.frames next.place token
  | .firstItem, token =>
    ((close? reading.frames token).map .ok).getD (readValue reading.frames next.place token)
  | .name, token => readName reading.frames next.place token
  | .firstName, token =>
    ((close? reading.frames token).map .ok).getD (readName reading.frames next.place token)
  | .colon, .colon => .ok { reading with expects := .value }
  | .colon, _ => .error (.malformed next.place)
  | .separator, token =>
    ((close? reading.frames token).map .ok).getD (readComma reading.frames next.place token)
  | .nothing _, _ => .error (.malformed next.place)

end Reading

/-- The value that a text writes. -/
def read (source : Source) : Except Fault Json := do
  -- A text that ends too early is at fault at its end.
  let reading ← (tokens source).foldlM Reading.step Reading.start
  match reading.expects with
  | .nothing whole => return whole
  | _ => throw (.malformed [])

end Json

end Ddl
