import RowQuery.Filter.Conditions
import RowQuery.SortedMap

namespace RowQuery

/-- What is written to a column: a value, or an expression with its own arguments. -/
inductive Assignment (V : Type) where
  | value (v : V)
  | expr (sql : String) (args : List (Arg V))
  deriving DecidableEq

/-- At most one assignment per column, in the order of the columns. -/
abbrev Assignments (V : Type) := SortedMap String (Assignment V)

/-- Assignments for the rows that a filter selects. -/
structure Update (V : Type) where
  filter : Filter V
  assignments : Assignments V

variable {V W : Type}

def Assignment.map (f : V → W) : Assignment V → Assignment W
  | .value v => .value (f v)
  | .expr sql args => .expr sql (args.map (Arg.map f))

namespace Update

def blank : Update V := ⟨.empty, .empty⟩

def confined (parts : List (Filter V)) : Update V := ⟨Filter.empty.andGroups parts, .empty⟩

def assign (u : Update V) (column : String) (a : Assignment V) : Update V :=
  { u with assignments := u.assignments.insert column a }

def set (u : Update V) (column : String) (v : V) : Update V := u.assign column (.value v)

def setExpr (u : Update V) (column sql : String) (args : List (Arg V)) : Update V :=
  u.assign column (.expr sql args)

/-- Set a column to what a serializer makes of a document, unless it fails and gives a reason. -/
def setDocument (u : Update V) (column : String) (document : Except String V) :
    Except String (Update V) :=
  document.map (u.set column)

/-- An update without assignments changes no row. -/
def isIdle (u : Update V) : Bool := u.assignments.isEmpty

def map (f : V → W) (u : Update V) : Update W :=
  ⟨u.filter.map f, u.assignments.map (Assignment.map f)⟩

end Update

end RowQuery
