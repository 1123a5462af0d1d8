/-! A list is cut into the parts between those of its elements that separate. -/

namespace Ddl

namespace Separated

variable {Element : Type}

/-- The elements before the first separator, and the parts after it. -/
def partsFrom (separates : Element → Bool) : List Element → List Element × List (List Element)
  -- The separators themselves belong to no part.
  | [] => ([], [])
  | element :: rest =>
    let (first, later) := partsFrom separates rest
    if separates element then ([], first :: later) else (element :: first, later)

/-- The parts of a list between its separators, of which there is at least one. -/
def parts (separates : Element → Bool) (elements : List Element) : List (List Element) :=
  let (first, later) := partsFrom separates elements
  first :: later

end Separated

end Ddl
