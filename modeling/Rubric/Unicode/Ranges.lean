/-
  Rubric.Unicode.Ranges

  Sets of code points as sorted, disjoint ranges.

  The tables of the library are texts such as `41-5a 61-7a aa`: ranges in
  hexadecimal, ascending, separated by white space. `Ranges.ofText` reads them and
  `Ranges.contains` looks a code point up by halving.
-/

namespace Rubric.Unicode

/-- Ranges of code points, both ends included, ascending and disjoint. -/
abbrev Ranges := Array (Nat × Nat)

/-- The value of a hexadecimal digit, if the character is one. -/
def hexDigit? (c : Char) : Option Nat :=
  if '0' ≤ c && c ≤ '9' then some (c.toNat - '0'.toNat)
  else if 'a' ≤ c && c ≤ 'f' then some (c.toNat - 'a'.toNat + 10)
  else if 'A' ≤ c && c ≤ 'F' then some (c.toNat - 'A'.toNat + 10)
  else none

/-- The number a row of hexadecimal digits stands for; other characters count
    as zero. -/
def hexValue (cs : List Char) : Nat :=
  cs.foldl (fun n c => 16 * n + (hexDigit? c).getD 0) 0

/-- The entries of a table, which are separated by spaces and line ends. -/
def entries (text : String) : List String :=
  ((text.splitOn "\n").flatMap (·.splitOn " ")).filter (· ≠ "")

namespace Ranges

/-- Reads one entry, `a` or `a-b`. -/
def entry (text : String) : Nat × Nat :=
  match text.splitOn "-" with
  | [a, b] => (hexValue a.toList, hexValue b.toList)
  | _ => (hexValue text.toList, hexValue text.toList)

/-- Reads a table of ranges. -/
def ofText (text : String) : Ranges :=
  (entries text).toArray.map entry

/-- Looks for `n` among the `fuel`-fold halved indices from `lo` up to `hi`. -/
def search (ranges : Ranges) (n : Nat) : Nat → Nat → Nat → Bool
  | 0, _, _ => false
  | fuel + 1, lo, hi =>
    if lo < hi then
      let mid := (lo + hi) / 2
      match ranges[mid]? with
      | none => false
      | some (a, b) =>
        if n < a then search ranges n fuel lo mid
        else if b < n then search ranges n fuel (mid + 1) hi
        else true
    else false

/-- Whether a code point lies in one of the ranges. -/
def contains (ranges : Ranges) (n : Nat) : Bool :=
  search ranges n (ranges.size + 1) 0 ranges.size

end Ranges

end Rubric.Unicode
