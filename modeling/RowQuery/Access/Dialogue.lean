import RowQuery.Failure
import RowQuery.Scope.Basic
import RowQuery.Update.Basic

namespace RowQuery

inductive Request (V : Type) where
  | count (scope : Scope V)
  | find (scope : Scope V)
  | delete (scope : Scope V)
  | update (scope : Scope V) (assignments : Assignments V)

namespace Request

variable {V : Type}

/-- A count, the rows, or the number of affected rows. -/
def Reply (R : Type) : Request V → Type
  | .count _ => Int
  | .find _ => List R
  | .delete _ => Nat
  | .update _ _ => Nat

def name : Request V → String
  | .count _ => "count"
  | .find _ => "find"
  | .delete _ => "delete"
  | .update _ _ => "update"

def scope : Request V → Scope V
  | .count s => s
  | .find s => s
  | .delete s => s
  | .update s _ => s

/-- An update without assignments asks for nothing. -/
def isIdle : Request V → Bool
  | .update _ a => a.isEmpty
  | _ => false

/-- The reply that reports no row. -/
def nothing (R : Type) : (q : Request V) → q.Reply R
  | .count _ => (0 : Int)
  | .find _ => ([] : List R)
  | .delete _ => (0 : Nat)
  | .update _ _ => (0 : Nat)

end Request

/-- A series of requests, each depending on the replies before it, that ends in a result. -/
inductive Dialogue (V R α : Type) where
  | done (result : Except Failure α)
  | ask (request : Request V) (next : request.Reply R → Dialogue V R α)

abbrev Responder (V R σ : Type) :=
  (request : Request V) → σ → Except Failure (request.Reply R) × σ

namespace Dialogue

variable {V R σ α β : Type}

def bind : Dialogue V R α → (α → Dialogue V R β) → Dialogue V R β
  | .done (.ok a), f => f a
  | .done (.error e), _ => .done (.error e)
  | .ask q next, f => .ask q (fun r => (next r).bind f)

instance : Monad (Dialogue V R) where
  pure a := .done (.ok a)
  bind := bind

def fail (e : Failure) : Dialogue V R α := .done (.error e)

def count (s : Scope V) : Dialogue V R Int := .ask (.count s) (fun n => .done (.ok n))

def find (s : Scope V) : Dialogue V R (List R) := .ask (.find s) (fun rows => .done (.ok rows))

def delete (s : Scope V) : Dialogue V R Nat := .ask (.delete s) (fun n => .done (.ok n))

def update (s : Scope V) (a : Assignments V) : Dialogue V R Nat :=
  .ask (.update s a) (fun n => .done (.ok n))

/-- The first request that fails ends the dialogue with its failure. -/
def run (respond : Responder V R σ) : Dialogue V R α → σ → Except Failure α × σ
  | .done result, s => (result, s)
  | .ask q next, s =>
    match respond q s with
    | (.ok reply, s') => (next reply).run respond s'
    | (.error e, s') => (.error e, s')

end Dialogue

end RowQuery
