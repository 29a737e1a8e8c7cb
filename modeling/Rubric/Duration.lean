/-
  Rubric.Duration

  Lengths of time and how they are written.
-/
namespace Rubric

/-- A length of time. -/
structure Duration where
  nanoseconds : Nat
deriving DecidableEq, Repr, Inhabited

namespace Duration

/-- A number of whole seconds. -/
def ofSeconds (n : Nat) : Duration := ⟨n * 1000000000⟩

/-- A number of whole microseconds. -/
def ofMicroseconds (n : Nat) : Duration := ⟨n * 1000⟩

/-- Whole microseconds, the rest being dropped. -/
def microseconds (d : Duration) : Nat := d.nanoseconds / 1000

/-- Whole seconds, the rest being dropped. -/
def seconds (d : Duration) : Nat := d.nanoseconds / 1000000000

/-- The decimals of a fraction `n / 10 ^ places`, without zeros at the end. -/
def decimals : (places n : Nat) → List Char
  | 0, _ => []
  | places + 1, n =>
    if n = 0 then []
    else Nat.digitChar (n / Nat.pow 10 places) :: decimals places (n % Nat.pow 10 places)

/-- A number of units with the decimals that it needs. -/
def inUnits (name : String) (places n : Nat) : String :=
  let whole := toString (n / Nat.pow 10 places)
  match decimals places (n % Nat.pow 10 places) with
  | [] => whole ++ name
  | ds => whole ++ "." ++ String.ofList ds ++ name

/-- The text of a length of time, in the largest unit of which it has one. -/
def toText (d : Duration) : String :=
  let n := d.nanoseconds
  if 1000000000 ≤ n then inUnits "s" 9 n
  else if 1000000 ≤ n then inUnits "ms" 6 n
  else if 1000 ≤ n then inUnits "µs" 3 n
  else inUnits "ns" 0 n

end Duration

end Rubric
