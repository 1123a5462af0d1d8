import Ddl.Text.Basic

/-! The ends of lines are written in three ways, of which one is kept. -/

namespace Ddl

namespace Text

/-- The text with each carriage return, and the line feed right after it, made one line feed. -/
def unifyLineEnds : Text → Text
  -- A pair of both characters is one end of a line and not two.
  | [] => []
  | '\r' :: '\n' :: rest => '\n' :: unifyLineEnds rest
  | '\r' :: rest => '\n' :: unifyLineEnds rest
  | char :: rest => char :: unifyLineEnds rest

end Text

end Ddl
