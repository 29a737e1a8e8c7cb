/-
  Rubric.Decimal.Binary64

  Finite binary floating-point numbers of 64 bits.

  A number is a sign, a whole significand below 2 ^ 53 and a binary exponent.
  `ofRatio?` rounds a quotient of natural numbers to the nearest such number, a
  tie to the even significand, in exact arithmetic; it has no answer where the
  quotient is too large.
-/

namespace Rubric.Decimal

/-- The number `± significand * 2 ^ exponent`. -/
structure Binary64 where
  negative : Bool
  significand : Nat
  exponent : Int
deriving DecidableEq, Repr, Inhabited

namespace Binary64

/-- The exponent of the smallest numbers, which have fewer significant bits. -/
def minExponent : Int := -1074

/-- The largest exponent. -/
def maxExponent : Int := 971

/-- `n * 2 ^ e` for `e ≥ 0`, and `n` otherwise. -/
def scaleUp (n : Nat) (e : Int) : Nat :=
  n * Nat.pow 2 e.toNat

/-- The nearest whole number to `num / den`, a tie to the even neighbour. -/
def roundRatio (num den : Nat) : Nat :=
  let q := num / den
  let r := num % den
  if 2 * r < den then q
  else if 2 * r > den then q + 1
  else if q % 2 == 0 then q else q + 1

/-- The exponent at which `num / den` has 53 significant bits. -/
def exponentFor (num den : Nat) : Int :=
  let guess : Int := (Nat.log2 num : Int) - (Nat.log2 den : Int) - 52
  let fits (e : Int) : Bool :=
    scaleUp num (-e) < Nat.pow 2 53 * scaleUp den e
  let exact := if fits (guess - 1) then guess - 1 else if fits guess then guess else guess + 1
  max minExponent exact

/-- The number nearest to `num / den`, unless that is too large. -/
def ofRatio? (negative : Bool) (num den : Nat) : Option Binary64 :=
  if num == 0 || den == 0 then some ⟨negative, 0, minExponent⟩
  else
    let e := exponentFor num den
    let m := roundRatio (scaleUp num (-e)) (scaleUp den e)
    let (m, e) := if m == Nat.pow 2 53 then (Nat.pow 2 52, e + 1) else (m, e)
    if e > maxExponent then none else some ⟨negative, m, e⟩

/-- The number nearest to `digits * 10 ^ exponent`, unless that is too large.
    Beyond 400 places past the digits the answer is settled: too large, or zero. -/
def ofDecimal? (negative : Bool) (digits : Nat) (exponent : Int) : Option Binary64 :=
  let places := (Nat.log2 digits : Int) / 3 + 1
  if digits == 0 then some ⟨negative, 0, minExponent⟩
  else if exponent > 400 then none
  else if exponent < -(400 + places) then some ⟨negative, 0, minExponent⟩
  else if 0 ≤ exponent then ofRatio? negative (digits * Nat.pow 10 exponent.toNat) 1
  else ofRatio? negative digits (Nat.pow 10 (-exponent).toNat)

/-- The size of a number as a quotient. -/
def ratio (x : Binary64) : Nat × Nat :=
  (scaleUp x.significand x.exponent, scaleUp 1 (-x.exponent))

end Binary64

end Rubric.Decimal
