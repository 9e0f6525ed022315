import RowQuery.Arg

namespace RowQuery

inductive Join where
  | and
  | or
  deriving DecidableEq

namespace Join

def separator : Join → String
  | .and => " and "
  | .or => " or "

def word : Join → String
  | .and => "and"
  | .or => "or"

end Join

/-- One condition of a filter, with the arguments of its own placeholders. -/
structure Clause (V : Type) where
  join : Join
  sql : String
  args : List (Arg V)
  deriving DecidableEq

/-- A filter selects rows by its clauses and lists them by its sort directives. -/
structure Filter (V : Type) where
  clauses : List (Clause V)
  order : List String
  deriving DecidableEq

variable {V W : Type}

def Clause.map (f : V → W) (c : Clause V) : Clause W :=
  ⟨c.join, c.sql, c.args.map (Arg.map f)⟩

namespace Filter

def empty : Filter V := ⟨[], []⟩

/-- A filter without clauses; its sort directives do not count. -/
def isEmpty (c : Filter V) : Bool := c.clauses.isEmpty

/-- All arguments in the order of their placeholders. -/
def args (c : Filter V) : List (Arg V) := c.clauses.flatMap Clause.args

def continuation (c : Clause V) : String := c.join.separator ++ c.sql

def joined : List (Clause V) → String
  | [] => ""
  | c :: rest => c.sql ++ String.join (rest.map continuation)

/-- The condition as one text; the join of the first clause is not written. -/
def predicate (c : Filter V) : String := joined c.clauses

def continuationSize : List (Clause V) → Nat
  | [] => 0
  | c :: rest => c.join.separator.utf8ByteSize + c.sql.utf8ByteSize + continuationSize rest

/-- The size in bytes of the predicate, added up without building it. -/
def predicateSize (c : Filter V) : Nat :=
  match c.clauses with
  | [] => 0
  | first :: rest => first.sql.utf8ByteSize + continuationSize rest

/-- Clauses written behind a text one after another, each with its join before it. -/
def written (text : String) (rest : List (Clause V)) : String :=
  rest.foldl (fun text c => text ++ c.join.separator ++ c.sql) text

/-- The predicate as one text that is written from the first clause to the last. A clause alone is
its own text. For more of them, the text must turn out to have the size that was added up for it. -/
def assembled? (c : Filter V) : Option String :=
  match c.clauses with
  | [] => some ""
  | [only] => some only.sql
  | first :: rest =>
    let text := written first.sql rest
    if text.utf8ByteSize = c.predicateSize then some text else none

/-- A filter that filters nothing, whatever its arguments and sort directives. -/
def isTrivial (c : Filter V) : Bool := c.predicate.isEmpty

def orderText (c : Filter V) : String := ", ".intercalate c.order

def push (c : Filter V) (join : Join) (sql : String) (args : List (Arg V)) : Filter V :=
  { c with clauses := c.clauses ++ [⟨join, sql, args⟩] }

def pushOrder (c : Filter V) (directives : List String) : Filter V :=
  { c with order := c.order ++ directives }

def map (f : V → W) (c : Filter V) : Filter W :=
  ⟨c.clauses.map (Clause.map f), c.order⟩

@[simp] theorem args_push (c : Filter V) (j : Join) (sql : String) (as : List (Arg V)) :
    (c.push j sql as).args = c.args ++ as := by
  simp [push, args]

@[simp] theorem order_push (c : Filter V) (j : Join) (sql : String) (as : List (Arg V)) :
    (c.push j sql as).order = c.order := rfl

end Filter

end RowQuery
