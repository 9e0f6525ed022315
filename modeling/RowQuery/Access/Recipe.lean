import RowQuery.Access.Operation
import RowQuery.Scope.Recipe
import RowQuery.Update.Recipe

namespace RowQuery.Operation

abbrev Recipe (V P : Type) :=
  Operation V (Filter.Recipe V) (Update.Recipe V) (Scope.Recipe V) P

variable {V P : Type}

def build : Recipe V P → Operation V (Filter V) (Update V) (Scope V) P
  | .byId id => .byId id
  | .byIds ids => .byIds ids
  | .first c => .first (c.map Filter.Recipe.build)
  | .all c => .all (c.map Filter.Recipe.build)
  | .page index size c => .page index size (c.map Filter.Recipe.build)
  | .delete c => .delete (c.map Filter.Recipe.build)
  | .update u => .update (u.map Update.Recipe.build)
  | .columnMap kind column c => .columnMap kind column (c.map Filter.Recipe.build)
  | .countScope s => .countScope s.build
  | .findScope s => .findScope s.build
  | .deleteScope s => .deleteScope s.build
  | .updateScope s u => .updateScope s.build u.build

end RowQuery.Operation
