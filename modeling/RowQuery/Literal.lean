import RowQuery.Arg
import RowQuery.Text.Layout
import RowQuery.Text.Quoted

namespace RowQuery

inductive Literal where
  | number (n : Int)
  | bool (b : Bool)
  | text (s : String)
  | optional (value : Option Literal)
  | sequence (items : List Literal)

open Text

namespace Literal

mutual

def layout : Literal → Layout
  | .number n => .word (toString n)
  | .bool true => .word "true"
  | .bool false => .word "false"
  | .text s => .word (Quoted.quoted s)
  | .optional none => .word "None"
  | .optional (some v) => .named "Some" v.layout
  | .sequence items => .list (layoutAll items)

def layoutAll : List Literal → List Layout
  | [] => []
  | v :: vs => v.layout :: layoutAll vs

end

end Literal

/-- A scalar argument shows as its value and a list argument as a list of values. -/
def Arg.layout : Arg Literal → Layout
  | .scalar v => v.layout
  | .list vs => .list (vs.map Literal.layout)

def argsLayout (as : List (Arg Literal)) : Layout := .list (as.map Arg.layout)

end RowQuery
