namespace RowQuery

structure Duration where
  nanos : Nat
  deriving DecidableEq

namespace Duration

/-- Nanoseconds beyond a second are carried into the seconds. -/
def ofParts (seconds nanos : Nat) : Duration := ⟨seconds * 1000000000 + nanos⟩

def ofMillis (ms : Nat) : Duration := ⟨ms * 1000000⟩

def seconds (d : Duration) : Nat := d.nanos / 1000000000

def subsecNanos (d : Duration) : Nat := d.nanos % 1000000000

/-- The first `places` decimal digits of the fraction `rest / unit`, up to the last digit that is not
zero. -/
def fractionDigits (unit : Nat) : Nat → Nat → List Char
  | 0, _ => []
  | places + 1, rest =>
    if rest = 0 then []
    else Nat.digitChar (rest * 10 / unit) :: fractionDigits unit places (rest * 10 % unit)

/-- A number of nanoseconds in a unit of at most a second, in full. -/
def decimal (nanos unit : Nat) : String :=
  let rest := nanos % unit
  toString (nanos / unit) ++
    (if rest = 0 then "" else "." ++ String.ofList (fractionDigits unit 9 rest))

/-- Written in the largest unit of which there is at least one. -/
def text (d : Duration) : String :=
  if 1000000000 ≤ d.nanos then decimal d.nanos 1000000000 ++ "s"
  else if 1000000 ≤ d.nanos then decimal d.nanos 1000000 ++ "ms"
  else if 1000 ≤ d.nanos then decimal d.nanos 1000 ++ "µs"
  else decimal d.nanos 1 ++ "ns"

end Duration

end RowQuery
