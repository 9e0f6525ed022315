import RowQuery.Filter.Recipe
import RowQuery.Update.Basic

namespace RowQuery.Update

inductive Change (V S : Type) where
  | narrow (call : Filter.Call V S)
  | set (column : String) (value : V)
  | setExpr (column sql : String) (args : List (Arg V))
  | setDocument (column : String) (document : Except String V)

inductive Start (S : Type) where
  | blank
  | confined (parts : List S)

/-- An update as it is asked for: changes in order, each switched on or off. -/
structure Recipe (V : Type) where
  start : Start (Filter.Recipe V)
  steps : List (Bool × Change V (Filter.Recipe V))

variable {V : Type}

def Change.apply (u : Update V) : Change V (Filter V) → Except String (Update V)
  | .narrow call => .ok { u with filter := call.apply u.filter }
  | .set column value => .ok (u.set column value)
  | .setExpr column sql args => .ok (u.setExpr column sql args)
  | .setDocument column document => u.setDocument column document

/-- The update after a step, and the fault of a step that failed and so changed nothing. -/
def Change.applyIf (enabled : Bool) (u : Update V) (change : Change V (Filter V)) :
    Update V × Option String :=
  if enabled then
    match change.apply u with
    | .ok u' => (u', none)
    | .error e => (u, some e)
  else (u, none)

def Change.buildParts : Change V (Filter.Recipe V) → Change V (Filter V)
  | .narrow call => .narrow (Filter.Recipe.buildParts call)
  | .set column value => .set column value
  | .setExpr column sql args => .setExpr column sql args
  | .setDocument column document => .setDocument column document

def Start.build : Start (Filter.Recipe V) → Update V
  | .blank => Update.blank
  | .confined parts => Update.confined (parts.map Filter.Recipe.build)

namespace Recipe

def stepFrom (u : Update V) (step : Bool × Change V (Filter.Recipe V)) :
    Update V × Option String :=
  step.2.buildParts.applyIf step.1 u

def build (r : Recipe V) : Update V :=
  r.steps.foldl (fun u step => (stepFrom u step).1) r.start.build

def statesFrom (u : Update V) :
    List (Bool × Change V (Filter.Recipe V)) → List (Update V × Option String)
  | [] => []
  | step :: steps => stepFrom u step :: statesFrom (stepFrom u step).1 steps

/-- The update at the start and after each step, with the faults of the steps. -/
def states (r : Recipe V) : List (Update V × Option String) :=
  (r.start.build, none) :: statesFrom r.start.build r.steps

end Recipe

end RowQuery.Update
