import RowQuery.Failure
import RowQuery.Text.Clip

namespace RowQuery

/-- What happens to a statement that would reach every row of its table. -/
inductive Policy where
  | allow
  | warn
  | refuse
  deriving DecidableEq

/-- How statements are guarded, timed and logged. Without a limit they are logged in full. -/
structure Settings where
  timeout : Option Duration
  unfilteredDelete : Policy
  unfilteredUpdate : Policy
  logLimit : Option Nat
  deriving DecidableEq

namespace Settings

def standard : Settings := ⟨none, .allow, .allow, some 200⟩

def policy (s : Settings) : Rule → Policy
  | .unfilteredDelete => s.unfilteredDelete
  | .unfilteredUpdate => s.unfilteredUpdate

def setPolicy (s : Settings) (p : Policy) : Rule → Settings
  | .unfilteredDelete => { s with unfilteredDelete := p }
  | .unfilteredUpdate => { s with unfilteredUpdate := p }

def logged (s : Settings) (sql : String) : String :=
  match s.logLimit with
  | some limit => Text.Clip.clip limit sql
  | none => sql

inductive Change where
  | timeout (d : Duration)
  | policy (rule : Rule) (p : Policy)
  | logLimit (limit : Option Nat)

def Change.apply (s : Settings) : Change → Settings
  | .timeout d => { s with timeout := some d }
  | .policy rule p => s.setPolicy p rule
  | .logLimit limit => { s with logLimit := limit }

def ofChanges (changes : List Change) : Settings := changes.foldl Change.apply standard

def statesFrom (s : Settings) : List Change → List Settings
  | [] => [s]
  | c :: cs => s :: statesFrom (c.apply s) cs

end Settings

end RowQuery
