import RowQuery.Filter.Recipe
import RowQuery.Scope.Basic

namespace RowQuery.Scope

inductive Step (V S : Type) where
  | select (columns : List String)
  | narrow (predicate : String) (args : List (Arg V))
  | sort (order : String)
  | matching (filter : S)
  | sortedBy (filter : S)
  | listing (filter : S)
  | take (limit : Nat)
  | skip (offset : Nat)

inductive Start where
  | all (table : String)
  | ofTable (table : Table)

structure Recipe (V : Type) where
  start : Start
  steps : List (Step V (Filter.Recipe V))

variable {V : Type}

def Step.apply (s : Scope V) : Step V (Filter V) → Scope V
  | .select columns => s.select columns
  | .narrow predicate args => s.narrow predicate args
  | .sort order => s.sort order
  | .matching filter => s.matching filter
  | .sortedBy filter => s.sortedBy filter
  | .listing filter => s.listing filter
  | .take limit => s.take limit
  | .skip offset => s.skip offset

def Step.buildParts : Step V (Filter.Recipe V) → Step V (Filter V)
  | .select columns => .select columns
  | .narrow predicate args => .narrow predicate args
  | .sort order => .sort order
  | .matching filter => .matching filter.build
  | .sortedBy filter => .sortedBy filter.build
  | .listing filter => .listing filter.build
  | .take limit => .take limit
  | .skip offset => .skip offset

def Start.build : Start → Scope V
  | .all table => Scope.all table
  | .ofTable table => Scope.ofTable table

namespace Recipe

def stepFrom (s : Scope V) (step : Step V (Filter.Recipe V)) : Scope V := step.buildParts.apply s

def build (r : Recipe V) : Scope V := r.steps.foldl stepFrom r.start.build

def statesFrom (s : Scope V) : List (Step V (Filter.Recipe V)) → List (Scope V)
  | [] => []
  | step :: steps => stepFrom s step :: statesFrom (stepFrom s step) steps

def states (r : Recipe V) : List (Scope V) :=
  r.start.build :: statesFrom r.start.build r.steps

end Recipe

end RowQuery.Scope
