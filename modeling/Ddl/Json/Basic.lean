import Ddl.Text.Surrogate

/-! JSON values, and the fields of objects. -/

namespace Ddl

/-- A JSON value. -/
inductive Json where
  /-- The value that stands for no value. -/
  | null
  /-- A truth value. -/
  | bool (value : Bool)
  /-- A number written as an integer. -/
  | integer (value : Int)
  /-- A number written in any other way, kept as it was written. -/
  | decimal (literal : Text)
  /-- A text. -/
  | string (value : Text)
  /-- A string that is no text, since halves of surrogate pairs stand in it on their own. -/
  | brokenString (value : RawText)
  /-- A list of values. -/
  | array (items : List Json)
  /-- Values with names, in the order in which they were written. -/
  | object (fields : List (Text × Json))

namespace Json

/-- The string that holds a raw text. -/
def ofRaw (raw : RawText) : Json :=
  match raw.text? with
  | some value => .string value
  | none => .brokenString raw

/-- The value of a field, for the fields of an object. -/
def field? (fields : List (Text × Json)) (name : Text) : Option Json :=
  -- Of fields with the same name the last one counts.
  fields.reverse.lookup name

end Json

end Ddl
