/-
  Rubric.Regex.CharSet

  Sets of characters in patterns.

  A set is a list of code point ranges. `CharSet.tidy` sorts the ranges and joins
  those that touch; the set operations work on tidy lists.
-/
import Rubric.Unicode.CaseFolding

namespace Rubric.Regex

/-- A set of code points, as ranges with both ends included. -/
abbrev CharSet := List (Nat × Nat)

namespace CharSet

/-- The largest code point. -/
def top : Nat := 0x10ffff

/-- Joins neighbouring ranges of a sorted list. -/
def join : List (Nat × Nat) → List (Nat × Nat)
  | [] => []
  | r :: rest =>
    match join rest with
    | [] => [r]
    | next :: more =>
      if next.1 ≤ r.2 + 1 then (r.1, max r.2 next.2) :: more else r :: next :: more

/-- Sorts the ranges and joins those that overlap or touch. -/
def tidy (set : CharSet) : CharSet :=
  join (set.mergeSort fun a b => a.1 ≤ b.1)

/-- Whether a code point is in a set. -/
def contains (set : CharSet) (n : Nat) : Bool :=
  set.any fun r => r.1 ≤ n && n ≤ r.2

/-- The set of one character. -/
def single (c : Char) : CharSet := [(c.toNat, c.toNat)]

/-- The gaps of a tidy list, from `low` on. -/
def gaps (low : Nat) : List (Nat × Nat) → List (Nat × Nat)
  | [] => if low ≤ top then [(low, top)] else []
  | r :: rest => if low < r.1 then (low, r.1 - 1) :: gaps (r.2 + 1) rest else gaps (r.2 + 1) rest

/-- All code points that are not in a set. -/
def complement (set : CharSet) : CharSet := gaps 0 (tidy set)

/-- The code points in either set. -/
def union (a b : CharSet) : CharSet := tidy (a ++ b)

/-- The code points in both sets. -/
def inter (a b : CharSet) : CharSet := complement (union (complement a) (complement b))

/-- The code points of the first set that are not in the second. -/
def diff (a b : CharSet) : CharSet := inter a (complement b)

/-- The code points in exactly one of the sets. -/
def symmDiff (a b : CharSet) : CharSet := union (diff a b) (diff b a)

/-- Adds to a set what differs from its members in case only; without `unicode`
    only among the letters of ASCII. -/
def foldCase (unicode : Bool) (set : CharSet) : CharSet :=
  let classes :=
    if unicode then Unicode.caseClasses
    else (List.range 26).map fun n => [0x41 + n, 0x61 + n]
  let added := classes.flatMap fun cls =>
    if cls.any (contains set) then cls.map fun n => (n, n) else []
  union set added

/-- Whether a set holds code points of ASCII only. -/
def isAscii (set : CharSet) : Bool :=
  set.all fun r => r.2 < 0x80

end CharSet

end Rubric.Regex
