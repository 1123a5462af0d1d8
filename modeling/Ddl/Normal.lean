import Ddl.Comment
import Ddl.Text.Space

/-! The normal form of a statement has no comments and single spaces between its tokens. -/

namespace Ddl

namespace Text

/-- The text with each run of white space made one space, told whether white space came before. -/
def collapseFrom : Bool → Text → Text
  -- The first character of a run becomes the space, and the others disappear.
  | _, [] => []
  | afterSpace, char :: rest =>
    if isSpace char then
      if afterSpace then collapseFrom true rest else ' ' :: collapseFrom true rest
    else char :: collapseFrom false rest

/-- The text with each run of white space made one space. -/
def collapse (text : Text) : Text :=
  collapseFrom false text

end Text

/-- The normal form of a statement: no comments, single spaces, no white space at the ends. -/
def normalize (statement : Text) : Text :=
  -- Line comments go first, so a block comment can be opened or closed by what they leave.
  (BlockComment.drop (LineComment.drop statement)).collapse.trim

end Ddl
