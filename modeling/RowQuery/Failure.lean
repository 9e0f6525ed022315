import RowQuery.Duration

namespace RowQuery

/-- The two settings that guard statements without a condition. -/
inductive Rule where
  | unfilteredDelete
  | unfilteredUpdate
  deriving DecidableEq

def Rule.name : Rule → String
  | .unfilteredDelete => "delete_without_where"
  | .unfilteredUpdate => "update_without_where"

/-- Why a call was turned down before a statement was sent. -/
inductive Objection where
  | pageSize
  | pageOffset (page size : Nat)
  | policy (rule : Rule) (sql : String)
  | stated (reason : String)
  deriving DecidableEq

/-- Why a call failed. What a statement, a column or a pool fails with is the text of the library
that it comes from, passed on as it is. -/
inductive Failure where
  | query (reason : String)
  | column (name reason : String)
  | validation (objection : Objection)
  | pool (reason : String)
  | timeout (after : Duration)
  | uncounted (table : String)
  | stated (reason : String)
  deriving DecidableEq

def Objection.message : Objection → String
  | .pageSize => "page size must be greater than zero"
  | .pageOffset page size => "page offset overflows: " ++ toString page ++ " * " ++ toString size
  | .policy rule sql => "SQL policy violation: " ++ rule.name ++ ": " ++ sql
  | .stated reason => reason

namespace Failure

def message : Failure → String
  | .query reason => "Query error: " ++ reason
  | .column name reason => "Decode error on column '" ++ name ++ "': " ++ reason
  | .validation objection => "Validation error: " ++ objection.message
  | .pool reason => "Pool error: " ++ reason
  | .timeout after => "Query timeout after " ++ after.text
  | .uncounted table => "COUNT on " ++ table ++ " returned no rows"
  | .stated reason => reason

def isValidation : Failure → Bool
  | .validation _ => true
  | _ => false

def isTimeout : Failure → Bool
  | .timeout _ => true
  | _ => false

end Failure

end RowQuery
