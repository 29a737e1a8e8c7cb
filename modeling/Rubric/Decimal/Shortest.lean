/-
  Rubric.Decimal.Shortest

  The shortest decimal text that reads back as a binary floating-point number.

  Every real number in a small interval rounds to the given number; the ends of
  the interval belong to it when the significand is even. For one digit, two
  digits and so on, the two neighbours of the number on that decimal grid are
  tried; the first grid with a hit gives the digits.
-/
import Rubric.Decimal.Binary64

namespace Rubric.Decimal

/-- A decimal number `digits * 10 ^ exponent`. -/
structure Scientific where
  digits : Nat
  exponent : Int
deriving DecidableEq, Repr, Inhabited

/-- How many times `num / den < 1` has to be multiplied by ten to reach one. -/
def leadingPlaces : (fuel num den : Nat) → Nat
  | 0, _, _ => 0
  | fuel + 1, num, den => if den ≤ num then 0 else leadingPlaces fuel (10 * num) den + 1

/-- The exponent of the leading decimal digit of `num / den`. -/
def leadingExponent (num den : Nat) : Int :=
  if den ≤ num then (((toString (num / den)).length : Nat) : Int) - 1
  else -((leadingPlaces 400 num den : Nat) : Int)

/-- The interval of `num / den` around a number, in quarters of its last place:
    the lower end, the number and the upper end. -/
def quarters (x : Binary64) : Nat × Nat × Nat :=
  let m := 4 * x.significand
  let narrow := x.significand == Nat.pow 2 52 && x.exponent != Binary64.minExponent
  (if narrow then m - 1 else m - 2, m, m + 2)

/-- The neighbour of a number on the grid `10 ^ exponent` that reads back as the
    number, if there is one. -/
def onGrid? (x : Binary64) (exponent : Int) : Option Nat :=
  let (lo, mid, hi) := quarters x
  -- All quantities over the common denominator `4 * 2 ^ -e * 10 ^ -exponent`.
  let up (n : Nat) : Nat := Binary64.scaleUp n x.exponent * Nat.pow 10 (-exponent).toNat
  let unit := 4 * Binary64.scaleUp 1 (-x.exponent) * Nat.pow 10 exponent.toNat
  let inside (n : Nat) : Bool :=
    if x.significand % 2 == 0 then up lo ≤ n * unit && n * unit ≤ up hi
    else up lo < n * unit && n * unit < up hi
  let below := up mid / unit
  let above := below + 1
  match inside below, inside above with
  | true, true =>
    if 2 * (up mid - below * unit) < unit then some below
    else if 2 * (up mid - below * unit) > unit then some above
    else some (if below % 2 == 0 then below else above)
  | true, false => some below
  | false, true => some above
  | false, false => none

/-- Drops trailing zeros from the digits. -/
def Scientific.strip : (fuel : Nat) → Scientific → Scientific
  | 0, d => d
  | fuel + 1, d =>
    if d.digits != 0 && d.digits % 10 == 0 then strip fuel ⟨d.digits / 10, d.exponent + 1⟩ else d

/-- The shortest decimal that reads back as the number. -/
def shortest (x : Binary64) : Scientific :=
  if x.significand == 0 then ⟨0, 0⟩
  else
    let (num, den) := x.ratio
    let k := leadingExponent num den
    let hit := (List.range 17).findSome? fun (n : Nat) =>
      (onGrid? x (k - (n : Int))).map fun digits => Scientific.strip 20 ⟨digits, k - (n : Int)⟩
    hit.getD ⟨num / den, 0⟩

/-- How a format writes decimals: in positions while the exponent of the leading
    digit is within the two bounds, with an exponent of at least two digits
    beyond them. -/
structure PositionalRange where
  lowest : Int
  highest : Int
deriving DecidableEq, Repr

/-- Numbers are written in positions from `0.0001` to below `1e+16`, always with a
    point or an exponent. -/
def plainRange : PositionalRange := ⟨-4, 15⟩

/-- `n` zeros. -/
def zeros (n : Nat) : String :=
  String.ofList (List.replicate n '0')

/-- The text of a number. -/
def Binary64.toText (x : Binary64) (format : PositionalRange := plainRange) : String :=
  let d := shortest x
  let digits := toString d.digits
  let lead : Int := d.exponent + (digits.length : Int) - 1
  let text :=
    if d.digits == 0 then "0.0"
    else if lead < format.lowest || format.highest < lead then
      let tail := String.ofList (digits.toList.drop 1)
      let mantissa := String.ofList (digits.toList.take 1) ++ (if tail.isEmpty then "" else "." ++ tail)
      let size := toString lead.natAbs
      let padded := if size.length < 2 then "0" ++ size else size
      mantissa ++ (if lead < 0 then "e-" else "e+") ++ padded
    else if 0 ≤ d.exponent then digits ++ zeros d.exponent.toNat ++ ".0"
    else if 0 ≤ lead then
      String.ofList (digits.toList.take (lead.toNat + 1)) ++ "." ++
        String.ofList (digits.toList.drop (lead.toNat + 1))
    else "0." ++ zeros ((-lead).toNat - 1) ++ digits
  if x.negative then "-" ++ text else text

end Rubric.Decimal
