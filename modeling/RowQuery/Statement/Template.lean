import RowQuery.Arg

namespace RowQuery.Statement

/-- A template is text with slots for arguments. -/
inductive Piece where
  | char (c : Char)
  | slot
  deriving DecidableEq

/-- A question mark is a slot, and two of them are one question mark of the text. -/
def pieces : List Char → List Piece
  | [] => []
  | '?' :: '?' :: cs => .char '?' :: pieces cs
  | '?' :: cs => .slot :: pieces cs
  | c :: cs => .char c :: pieces cs

def slots (template : String) : Nat := (pieces template.toList).count .slot

end RowQuery.Statement
