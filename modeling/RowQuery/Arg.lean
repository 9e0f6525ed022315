namespace RowQuery

/-- What one placeholder is filled with: a single value, or a list written out in parentheses. -/
inductive Arg (V : Type) where
  | scalar (value : V)
  | list (values : List V)
  deriving DecidableEq

namespace Arg

variable {V W : Type}

def values : Arg V → List V
  | .scalar v => [v]
  | .list vs => vs

def size (a : Arg V) : Nat := a.values.length

def isList : Arg V → Bool
  | .scalar _ => false
  | .list _ => true

def map (f : V → W) : Arg V → Arg W
  | .scalar v => .scalar (f v)
  | .list vs => .list (vs.map f)

/-- Bound values are numbered from 1; an argument after `bound` others takes the next numbers. -/
def numbers (bound : Nat) (a : Arg V) : List Nat := List.range' (bound + 1) a.size

def numberAll (bound : Nat) : List (Arg V) → List (List Nat)
  | [] => []
  | a :: as => a.numbers bound :: numberAll (bound + a.size) as

def flatten (as : List (Arg V)) : List V := as.flatMap values

@[simp] theorem values_scalar (v : V) : (scalar v).values = [v] := rfl

@[simp] theorem values_list (vs : List V) : (list vs).values = vs := rfl

@[simp] theorem values_map (f : V → W) (a : Arg V) : (a.map f).values = a.values.map f := by
  cases a <;> rfl

@[simp] theorem size_map (f : V → W) (a : Arg V) : (a.map f).size = a.size := by
  simp [size]

end Arg

end RowQuery
