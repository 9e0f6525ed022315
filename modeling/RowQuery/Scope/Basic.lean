import RowQuery.Filter.Conditions

namespace RowQuery

/-- The table that holds the rows of a model. No column list means all columns. -/
structure Table where
  name : String
  idColumn : String
  columns : List String
  deriving DecidableEq

/-- What a statement is about: a table, the columns to read, and the rows with their order and
bounds. -/
structure Scope (V : Type) where
  table : String
  columns : List String
  predicate : String
  args : List (Arg V)
  order : String
  limit : Option Nat
  offset : Option Nat
  deriving DecidableEq

namespace Scope

variable {V W : Type}

def all (table : String) : Scope V := ⟨table, [], "", [], "", none, none⟩

def select (s : Scope V) (columns : List String) : Scope V := { s with columns := columns }

def ofTable (t : Table) : Scope V := (all t.name).select t.columns

/-- Keep only the rows that also satisfy a predicate. An empty one changes nothing, whatever its
arguments. -/
def narrow (s : Scope V) (predicate : String) (args : List (Arg V)) : Scope V :=
  if predicate.isEmpty then s
  else if s.predicate.isEmpty then { s with predicate := predicate, args := s.args ++ args }
  else { s with
    predicate := Filter.group s.predicate ++ " and " ++ Filter.group predicate
    args := s.args ++ args }

@[simp] theorem narrow_empty (s : Scope V) (args : List (Arg V)) : s.narrow "" args = s := rfl

/-- Sort further, after the order there already is. -/
def sort (s : Scope V) (order : String) : Scope V :=
  if order.isEmpty then s
  else if s.order.isEmpty then { s with order := order }
  else { s with order := s.order ++ ", " ++ order }

@[simp] theorem sort_empty (s : Scope V) : s.sort "" = s := rfl

/-- Only the rows that a filter selects, in no other order than before. -/
def matching (s : Scope V) (c : Filter V) : Scope V := s.narrow c.predicate c.args

def sortedBy (s : Scope V) (c : Filter V) : Scope V := s.sort c.orderText

def listing (s : Scope V) (c : Filter V) : Scope V := (s.matching c).sortedBy c

def take (s : Scope V) (limit : Nat) : Scope V := { s with limit := some limit }

def skip (s : Scope V) (offset : Nat) : Scope V := { s with offset := some offset }

/-- A scope without a predicate reaches every row of its table. -/
def isUnfiltered (s : Scope V) : Bool := s.predicate.isEmpty

def map (f : V → W) (s : Scope V) : Scope W :=
  ⟨s.table, s.columns, s.predicate, s.args.map (Arg.map f), s.order, s.limit, s.offset⟩

end Scope

end RowQuery
