import RowQuery.Access.Dialogue

namespace RowQuery

/-- One prepared reply: a failure, or what each kind of request is given. -/
structure Prepared (R : Type) where
  failure : Option Failure
  count : Int
  rows : List R
  affected : Nat

structure Script (V R : Type) where
  replies : List (Prepared R)
  requests : List (Request V)

variable {V R : Type}

namespace Prepared

def blank : Prepared R := ⟨none, 0, [], 0⟩

def reply (p : Prepared R) : (q : Request V) → q.Reply R
  | .count _ => p.count
  | .find _ => p.rows
  | .delete _ => p.affected
  | .update _ _ => p.affected

end Prepared

namespace Script

def ofReplies (replies : List (Prepared R)) : Script V R := ⟨replies, []⟩

/-- Every request is recorded and takes the next reply; after the last one they are blank. -/
def respond : Responder V R (Script V R) := fun q s =>
  let p := s.replies.headD .blank
  (match p.failure with
    | some e => .error e
    | none => .ok (p.reply q),
    ⟨s.replies.tail, s.requests ++ [q]⟩)

end Script

end RowQuery
