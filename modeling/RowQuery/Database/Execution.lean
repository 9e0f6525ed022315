import RowQuery.Access.Operation
import RowQuery.Database.Session

namespace RowQuery

namespace Request

variable {V : Type}

def statement : Request V → Statement V
  | .count s => s.countStatement
  | .find s => s.selectStatement
  | .delete s => s.deleteStatement
  | .update s a => s.updateStatement a

def purpose : Request V → Database.Purpose
  | .count _ => .query
  | .find _ => .query
  | .delete _ => .execute
  | .update _ _ => .execute

/-- The setting that guards a request which changes every row of its table. -/
def rule? (q : Request V) : Option Rule :=
  if q.scope.isUnfiltered then
    match q with
    | .delete _ => some .unfilteredDelete
    | .update _ _ => some .unfilteredUpdate
    | _ => none
  else none

end Request

namespace Database

variable {V R M P K A : Type}

/-- The number of rows is read from the column of that name. -/
def conclude (client : Client R) : (q : Request V) → Response R → Except Failure (q.Reply R)
  | .count s, r =>
    match r.rows with
    | [] => .error (.uncounted s.table)
    | row :: _ => (client.integer "count" row).mapError (.column "count")
  | .find _, r => .ok r.rows
  | .delete _, r => .ok r.affected
  | .update _ _, r => .ok r.affected

def permit (settings : Settings) (q : Request V) (s : Session V R) :
    Except Failure Unit × Session V R :=
  match q.rule? with
  | some rule => s.guard settings rule q.statement.text
  | none => (.ok (), s)

/-- A request is checked against the policy, logged, sent, and answered from the response. -/
def respond (client : Client R) (settings : Settings) : Responder V R (Session V R) := fun q s =>
  if q.isIdle then (.ok (q.nothing R), s)
  else
    match permit settings q s with
    | (.error e, s) => (.error e, s)
    | (.ok _, s) =>
      match (s.trace settings q.name q.scope.table q.statement).send client settings q.purpose
          q.statement with
      | (.error e, s) => (.error e, s)
      | (.ok r, s) => (conclude client q r, s)

/-- Where a connection comes from: it is there, or a pool has none to give and says why. -/
inductive Source where
  | direct
  | emptyPool (reason : String)
  deriving DecidableEq

def Source.checkOut : Source → Except Failure Unit
  | .direct => .ok ()
  | .emptyPool reason => .error (.pool reason)

/-- One call on a connection of its own. Without a connection there is no session to report. -/
def perform [KeyOrder K] (source : Source) (client : Client R) (settings : Settings) (t : Table)
    (reading : Reading R M P K A) (call : Operation V (Filter V) (Update V) (Scope V) P)
    (script : List (Response R)) :
    Except Failure (Except Failure (Outcome R M K A) × Session V R) :=
  source.checkOut.map fun _ =>
    (call.dialogue t reading).run (respond client settings) (Session.start script)

end Database

end RowQuery
