import RowQuery.Filter.Basic

namespace RowQuery

inductive Comparison where
  | like
  | equal
  | greater
  | atLeast
  | less
  | atMost
  deriving DecidableEq

def Comparison.symbol : Comparison → String
  | .like => "like"
  | .equal => "="
  | .greater => ">"
  | .atLeast => ">="
  | .less => "<"
  | .atMost => "<="

namespace Filter

variable {V : Type}

def expr (c : Filter V) (sql : String) (args : List (Arg V)) : Filter V := c.push .and sql args

def compare (c : Filter V) (field : String) (op : Comparison) (value : V) : Filter V :=
  c.expr (field ++ " " ++ op.symbol ++ " ?") [.scalar value]

/-- Membership in a set of values. No value means no condition and one value means equality, so an
empty list is never written. -/
def isIn (c : Filter V) (field : String) (values : List (Arg V)) : Filter V :=
  match Arg.flatten values with
  | [] => c
  | [v] => c.compare field .equal v
  | vs => c.expr (field ++ " in ?") [.list vs]

def isInList (c : Filter V) (field : String) (values : List V) : Filter V :=
  c.isIn field [.list values]

def isInQuery (c : Filter V) (field query : String) (args : List (Arg V)) : Filter V :=
  c.expr (field ++ " in (" ++ query ++ ")") args

def group (predicate : String) : String := "( " ++ predicate ++ " )"

/-- Add one group per part, or none at all when there is no part or some part filters nothing. -/
def andGroups (c : Filter V) (parts : List (Filter V)) : Filter V :=
  if parts.isEmpty || parts.any isTrivial then c
  else parts.foldl (fun c p => c.push .and (group p.predicate) p.args) c

/-- Add an alternative, unless it filters nothing. -/
def orGroup (c part : Filter V) : Filter V :=
  if part.isTrivial then c else c.push .or (group part.predicate) part.args

def ascending (c : Filter V) (fields : List String) : Filter V := c.pushOrder fields

def descending (c : Filter V) (fields : List String) : Filter V :=
  c.pushOrder (fields.map (· ++ " desc"))

/-- The alternatives of a list. One filter alone stands for itself, without parentheses. -/
def either : List (Filter V) → Filter V
  | [] => empty
  | [p] => p
  | parts => parts.foldl orGroup empty

end Filter

end RowQuery
