/-! Sets of code points are written as ascending lists of ranges. -/

namespace Ddl

/-- A range of code points, both ends included. -/
structure CodeRange where
  /-- The smallest code point of the range. -/
  first : Nat
  /-- The largest code point of the range. -/
  last : Nat

namespace CodeRange

/-- Whether one of the ranges contains the code point, for ranges listed in ascending order. -/
def cover : List CodeRange → Nat → Bool
  -- A range that begins beyond the code point ends the search, since all later ones do too.
  | [], _ => false
  | range :: later, code =>
    if code < range.first then false
    else if code ≤ range.last then true
    else cover later code

end CodeRange

end Ddl
