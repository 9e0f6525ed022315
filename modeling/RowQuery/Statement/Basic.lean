import RowQuery.Statement.Template

namespace RowQuery

/-- A character of a statement, or the number of a bound value. -/
inductive Token where
  | char (c : Char)
  | param (n : Nat)
  deriving DecidableEq

namespace Token

def chars : Token → List Char
  | .char c => [c]
  | .param n => '$' :: Nat.toDigits 10 n

def ofText (s : String) : List Token := s.toList.map char

def listing : List Nat → List Token
  | [] => []
  | [n] => [.param n]
  | n :: ns => .param n :: (ofText ", " ++ listing ns)

/-- An argument as it stands in a statement where `bound` values come before it. -/
def ofArg {V : Type} (bound : Nat) : Arg V → List Token
  | .scalar _ => [.param (bound + 1)]
  | .list [] => ofText "(NULL)"
  | .list vs => .char '(' :: (listing ((Arg.list vs).numbers bound) ++ [.char ')'])

end Token

/-- A statement with the values its numbers refer to, and the count of arguments left over for want
of a slot. -/
structure Statement (V : Type) where
  tokens : List Token
  params : List V
  surplus : Nat
  deriving DecidableEq

namespace Statement

variable {V W : Type}

def empty : Statement V := ⟨[], [], 0⟩

def text (s : Statement V) : String := String.ofList (s.tokens.flatMap Token.chars)

def write (s : Statement V) (t : String) : Statement V :=
  { s with tokens := s.tokens ++ Token.ofText t }

def bind (s : Statement V) (v : V) : Statement V :=
  { s with tokens := s.tokens ++ [.param (s.params.length + 1)], params := s.params ++ [v] }

/-- A template with its slots filled in order, where `bound` values come before it. A slot without
an argument stays a question mark. -/
def fillPieces (bound : Nat) : List Piece → List (Arg V) → Statement V
  | [], as => ⟨[], [], as.length⟩
  | .char c :: ps, as =>
    let rest := fillPieces bound ps as
    { rest with tokens := .char c :: rest.tokens }
  | .slot :: ps, [] =>
    let rest := fillPieces bound ps []
    { rest with tokens := .char '?' :: rest.tokens }
  | .slot :: ps, a :: as =>
    let rest := fillPieces (bound + a.size) ps as
    ⟨Token.ofArg bound a ++ rest.tokens, a.values ++ rest.params, rest.surplus⟩

def fill (s : Statement V) (template : String) (args : List (Arg V)) : Statement V :=
  let filled := fillPieces s.params.length (pieces template.toList) args
  ⟨s.tokens ++ filled.tokens, s.params ++ filled.params, s.surplus + filled.surplus⟩

def map (f : V → W) (s : Statement V) : Statement W := ⟨s.tokens, s.params.map f, s.surplus⟩

end Statement

end RowQuery
