import RowQuery.Scope.Basic
import RowQuery.Statement.Basic
import RowQuery.Update.Basic

namespace RowQuery

namespace Statement

variable {V : Type}

def filtered (s : Statement V) (scope : Scope V) : Statement V :=
  if scope.isUnfiltered then s else (s.write " WHERE ").fill scope.predicate scope.args

def setColumn (s : Statement V) (column : String) : Assignment V → Statement V
  | .value v => (s.write (column ++ " = ")).bind v
  | .expr sql args => (s.write (column ++ " = ")).fill sql args

def setColumns (s : Statement V) : List (String × Assignment V) → Statement V
  | [] => s
  | [e] => s.setColumn e.1 e.2
  | e :: es => ((s.setColumn e.1 e.2).write ", ").setColumns es

end Statement

namespace Scope

variable {V : Type}

def projection (s : Scope V) : String :=
  if s.columns.isEmpty then "*" else ", ".intercalate s.columns

/-- The order and the bounds of a scope, as they end a statement that reads rows. -/
def tail (s : Scope V) : String :=
  (if s.order.isEmpty then "" else " ORDER BY " ++ s.order) ++
  (s.limit.elim "" (" LIMIT " ++ toString ·)) ++
  (s.offset.elim "" (" OFFSET " ++ toString ·))

def selectStatement (s : Scope V) : Statement V :=
  let source := "SELECT " ++ s.projection ++ " FROM " ++ s.table
  ((Statement.empty.write source).filtered s).write s.tail

def countStatement (s : Scope V) : Statement V :=
  (Statement.empty.write ("SELECT COUNT(*) FROM " ++ s.table)).filtered s

def deleteStatement (s : Scope V) : Statement V :=
  (Statement.empty.write ("DELETE FROM " ++ s.table)).filtered s

def updateStatement (s : Scope V) (a : Assignments V) : Statement V :=
  ((Statement.empty.write ("UPDATE " ++ s.table ++ " SET ")).setColumns a.entries).filtered s

end Scope

end RowQuery
