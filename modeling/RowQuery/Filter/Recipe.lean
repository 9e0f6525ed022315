import RowQuery.Filter.Conditions

namespace RowQuery.Filter

/-- One step of building a filter, as data. The parts of a group are of type `S`. -/
inductive Call (V S : Type) where
  | expr (sql : String) (args : List (Arg V))
  | compare (field : String) (op : Comparison) (value : V)
  | isIn (field : String) (values : List (Arg V))
  | isInList (field : String) (values : List V)
  | isInQuery (field query : String) (args : List (Arg V))
  | andGroups (parts : List S)
  | orGroup (part : S)
  | ascending (fields : List String)
  | descending (fields : List String)

/-- A filter as it is asked for: calls in order, each switched on or off, with nested recipes for
the parts of its groups. -/
inductive Recipe (V : Type) where
  | blank
  | either (parts : List (Recipe V))
  | step (before : Recipe V) (enabled : Bool) (call : Call V (Recipe V))

variable {V : Type}

namespace Call

def apply (c : Filter V) : Call V (Filter V) → Filter V
  | .expr sql args => c.expr sql args
  | .compare field op value => c.compare field op value
  | .isIn field values => c.isIn field values
  | .isInList field values => c.isInList field values
  | .isInQuery field query args => c.isInQuery field query args
  | .andGroups parts => c.andGroups parts
  | .orGroup part => c.orGroup part
  | .ascending fields => c.ascending fields
  | .descending fields => c.descending fields

def applyIf (enabled : Bool) (c : Filter V) (call : Call V (Filter V)) : Filter V :=
  if enabled then call.apply c else c

end Call

mutual

def Recipe.build : Recipe V → Filter V
  | .blank => empty
  | .either parts => Filter.either (Recipe.buildAll parts)
  | .step before enabled call => (Recipe.buildParts call).applyIf enabled before.build

def Recipe.buildAll : List (Recipe V) → List (Filter V)
  | [] => []
  | part :: parts => part.build :: Recipe.buildAll parts

def Recipe.buildParts : Call V (Recipe V) → Call V (Filter V)
  | .expr sql args => .expr sql args
  | .compare field op value => .compare field op value
  | .isIn field values => .isIn field values
  | .isInList field values => .isInList field values
  | .isInQuery field query args => .isInQuery field query args
  | .andGroups parts => .andGroups (Recipe.buildAll parts)
  | .orGroup part => .orGroup part.build
  | .ascending fields => .ascending fields
  | .descending fields => .descending fields

end

namespace Recipe

@[simp] theorem buildAll_eq_map (parts : List (Recipe V)) : buildAll parts = parts.map build := by
  induction parts with
  | nil => rfl
  | cons p ps ih => simp [buildAll, ih]

def states : Recipe V → List (Filter V)
  | .step before enabled call => before.states ++ [(step before enabled call).build]
  | start => [start.build]

end Recipe

end RowQuery.Filter
