import RowQuery.Access.Dialogue
import RowQuery.Settings
import RowQuery.Statement.Rendering

namespace RowQuery.Database

/-- How a client responds to a statement, and after how long. Its failure may be any. -/
structure Response (R : Type) where
  failure : Option Failure
  rows : List R
  affected : Nat
  delay : Duration

def Response.blank {R : Type} : Response R := ⟨none, [], 0, ⟨0⟩⟩

/-- What is assumed of a client beside its responses: which texts it turns down at once, so that no
response is taken for them, how it reads a number from a column of a row, and whether it has a token
to cancel a statement with. -/
structure Client (R : Type) where
  refusal : String → Option Failure
  integer : String → R → Except String Int
  cancellable : Bool

/-- A query returns rows; any other statement returns the number of affected rows. -/
inductive Purpose where
  | query
  | execute
  deriving DecidableEq

def Purpose.name : Purpose → String
  | .query => "query"
  | .execute => "execute"

structure Sent (V : Type) where
  purpose : Purpose
  sql : String
  params : List V
  deriving DecidableEq

/-- What is logged: each statement, arguments it had no slot for, and what the policy warns of. -/
inductive Event where
  | statement (operation table : String) (paramCount : Nat) (sql : String)
  | surplus (operation table : String) (count : Nat) (sql : String)
  | policy (rule : Rule) (sql : String)
  deriving DecidableEq

inductive Level where
  | debug
  | warn
  deriving DecidableEq

def Level.name : Level → String
  | .debug => "DEBUG"
  | .warn => "WARN"

def Event.level : Event → Level
  | .statement _ _ _ _ => .debug
  | .surplus _ _ _ _ => .warn
  | .policy _ _ => .warn

/-- A statement is logged without a message. -/
def Event.message : Event → Option String
  | .statement _ _ _ _ => none
  | .surplus _ _ _ _ => some "more arguments than placeholders; surplus arguments dropped"
  | .policy _ _ => some "SQL policy warning"

/-- The responses still to come, and what has been sent, cancelled and logged. -/
structure Session (V R : Type) where
  script : List (Response R)
  statements : List (Sent V)
  cancels : Nat
  events : List Event

namespace Session

variable {V R : Type}

def start (script : List (Response R)) : Session V R := ⟨script, [], 0, []⟩

def log (s : Session V R) (e : Event) : Session V R := { s with events := s.events ++ [e] }

/-- Apply the policy for a rule: let a statement pass, let it pass with a warning, or refuse it. -/
def guard (settings : Settings) (rule : Rule) (sql : String) (s : Session V R) :
    Except Failure Unit × Session V R :=
  match settings.policy rule with
  | .allow => (.ok (), s)
  | .warn => (.ok (), s.log (.policy rule sql))
  | .refuse => (.error (.validation (.policy rule sql)), s)

/-- Log a statement that is about to be sent, and the arguments it leaves out. -/
def trace (settings : Settings) (operation table : String) (q : Statement V) (s : Session V R) :
    Session V R :=
  let sql := settings.logged q.text
  let s := s.log (.statement operation table q.params.length sql)
  if q.surplus = 0 then s else s.log (.surplus operation table q.surplus sql)

def exceeded (settings : Settings) (r : Response R) : Option Duration :=
  settings.timeout.filter (fun limit => limit.nanos < r.delay.nanos)

/-- Send a statement and wait for its response. A statement that takes too long is given up, and it
is cancelled if there is a token to do so. -/
def send (client : Client R) (settings : Settings) (purpose : Purpose) (q : Statement V)
    (s : Session V R) : Except Failure (Response R) × Session V R :=
  let sql := q.text
  let s := { s with statements := s.statements ++ [⟨purpose, sql, q.params⟩] }
  match client.refusal sql with
  | some e => (.error e, s)
  | none =>
    let r := s.script.headD .blank
    let s := { s with script := s.script.tail }
    match exceeded settings r with
    | some limit =>
      (.error (.timeout limit), { s with cancels := s.cancels + client.cancellable.toNat })
    | none =>
      match r.failure with
      | some e => (.error e, s)
      | none => (.ok r, s)

end Session

end RowQuery.Database
