import Ddl.Json.Reader

/-! The body of a request is checked for the one field that its place reads. -/

namespace Ddl

/-- A complaint about the body of a request. -/
structure Complaint where
  /-- What the complaint is about, or nothing if it is about the body as a whole. -/
  location : Text
  /-- What is wrong. -/
  message : Text
  deriving DecidableEq

/-- The words of a complaint. -/
def Complaint.render (complaint : Complaint) : Text :=
  if complaint.location = [] then complaint.message
  else complaint.location ++ ": ".toList ++ complaint.message

/-- The words of several complaints together. -/
def Complaint.renderAll (complaints : List Complaint) : Text :=
  Text.join "; ".toList (complaints.map Complaint.render)

/-- Why the body of a request is not accepted. -/
inductive InputError where
  /-- The body goes beyond what is read at all. -/
  | unreadable
  /-- The body does not hold what its place reads. -/
  | invalid (complaints : List Complaint)
  deriving DecidableEq

namespace Input

/-- A value that was read from the body of a request. -/
abbrev Checked (Value : Type) := Except InputError Value

/-- The single complaint about a location. -/
def complain {Value : Type} (location : Text) (message : String) : Checked Value :=
  .error (.invalid [⟨location, message.toList⟩])

/-- The fields of the object that a body writes. -/
def fields (body : List UInt8) : Checked (List (Text × Json)) :=
  -- An empty body is missing altogether.
  if body = [] then complain [] "Field required"
  else
    match Json.Source.ofBytes? body with
    | none => .error .unreadable
    | some source =>
      match Json.read source with
      | .error (.malformed rest) =>
        complain (Text.ofNat (source.length - rest.length)) "JSON decode error"
      | .error _ => .error .unreadable
      | .ok (.object fields) => .ok fields
      | .ok _ =>
        complain [] "Input should be a valid dictionary or object to extract fields from"

/-- The value of a field that has to be there. -/
def field (name : Text) (body : List UInt8) : Checked Json := do
  match Json.field? (← fields body) name with
  | some value => return value
  | none => complain name "Field required"

/-- The text in a field, which may not be empty. -/
def text (name : Text) (body : List UInt8) : Checked Text := do
  -- Counting the characters of a text asks that it is whole.
  match ← field name body with
  | .string [] => complain name "String should have at least 1 character"
  | .string value => return value
  | .brokenString _ =>
    complain name
      "Input should be a valid string, unable to parse raw data as a unicode string"
  | _ => complain name "Input should be a valid string"

/-- The raw text that an item of a list is, if it is one. -/
def itemText? : Json → Option RawText
  -- An item may be empty, so its characters are not counted, and halves of pairs pass.
  | .string value => some (.ofText value)
  | .brokenString value => some value
  | _ => none

/-- The complaint about an item of a list, unless it is a text. -/
def itemComplaint? (name : Text) (item : Json × Nat) : Option Complaint :=
  match itemText? item.1 with
  | some _ => none
  | none =>
    some ⟨name ++ ['.'] ++ Text.ofNat item.2, "Input should be a valid string".toList⟩

/-- The texts in a field, of which there has to be at least one. Each of them may be empty, and
halves of surrogate pairs may stand in them. -/
def texts (name : Text) (body : List UInt8) : Checked (List RawText) := do
  -- All items that are no texts are complained about together.
  match ← field name body with
  | .array [] => complain name "List should have at least 1 item after validation, not 0"
  | .array items =>
    match items.zipIdx.filterMap (itemComplaint? name) with
    | [] => return items.filterMap itemText?
    | complaints => .error (.invalid complaints)
  | _ => complain name "Input should be a valid list"

end Input

end Ddl
