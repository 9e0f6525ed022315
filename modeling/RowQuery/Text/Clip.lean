namespace RowQuery.Text.Clip

/-- Whether a position, counted in bytes of UTF-8, lies between two characters. -/
def isBoundary : List Char → Nat → Bool
  | _, 0 => true
  | [], _ + 1 => false
  | c :: cs, n => decide (c.utf8Size ≤ n) && isBoundary cs (n - c.utf8Size)

/-- The last boundary at or before a position, searched for backwards. -/
def floorBoundary (cs : List Char) : Nat → Nat
  | 0 => 0
  | n + 1 => if isBoundary cs (n + 1) then n + 1 else floorBoundary cs n

theorem floorBoundary_le (cs : List Char) (n : Nat) : floorBoundary cs n ≤ n := by
  induction n with
  | zero => exact Nat.le_refl 0
  | succ n ih =>
    unfold floorBoundary
    split
    · exact Nat.le_refl _
    · exact Nat.le_succ_of_le ih

theorem isBoundary_floorBoundary (cs : List Char) (n : Nat) :
    isBoundary cs (floorBoundary cs n) = true := by
  induction n with
  | zero => cases cs <;> rfl
  | succ n ih =>
    unfold floorBoundary
    split
    · assumption
    · exact ih

def before : List Char → Nat → List Char
  | [], _ => []
  | c :: cs, n => if c.utf8Size ≤ n then c :: before cs (n - c.utf8Size) else []

/-- A text of more than `limit` bytes is cut at the last boundary that keeps it within the limit. -/
def clip (limit : Nat) (s : String) : String :=
  if s.utf8ByteSize ≤ limit then s
  else String.ofList (before s.toList (floorBoundary s.toList limit)) ++ "..."

end RowQuery.Text.Clip
