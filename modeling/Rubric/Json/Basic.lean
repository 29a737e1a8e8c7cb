/-
  Rubric.Json.Basic

  JSON values.

  An object keeps its members in the order they were written. `Fields.insert`
  keeps names distinct: a name that is there already keeps its place and takes
  the new value.
-/
import Rubric.Decimal.Shortest

namespace Rubric

/-- A number: whole numbers of 64 bits exactly, any other as a binary fraction. -/
inductive Number where
  | natural (n : Nat)
  /-- The number `-n`, for `n` above zero. -/
  | negative (n : Nat)
  | real (x : Decimal.Binary64)
deriving DecidableEq, Repr, Inhabited

namespace Number

/-- The largest whole number that is kept exactly. -/
def maxNatural : Nat := Nat.pow 2 64 - 1

/-- The size of the least negative number that is kept exactly. -/
def maxNegative : Nat := Nat.pow 2 63

/-- The text of a number. -/
def toText : Number → String
  | .natural n => toString n
  | .negative n => "-" ++ toString n
  | .real x => x.toText

end Number

/-- A JSON value. -/
inductive Json where
  | null
  | bool (value : Bool)
  | number (value : Number)
  | string (value : String)
  | array (items : List Json)
  | object (fields : List (String × Json))
deriving Repr, Inhabited

/-- Puts a value under a name: in the place of the old value if there is one, at
    the end otherwise. -/
def Fields.insert {α : Type} (name : String) (value : α) : List (String × α) → List (String × α)
  | [] => [(name, value)]
  | (n, v) :: rest => if n = name then (n, value) :: rest else (n, v) :: insert name value rest

/-- The value under a name. -/
def Fields.get? {α : Type} (name : String) : List (String × α) → Option α
  | [] => none
  | (n, v) :: rest => if n = name then some v else get? name rest

namespace Json

/-- The value of a member of an object. -/
def get? (name : String) : Json → Option Json
  | .object fields => Fields.get? name fields
  | _ => none

/-- A whole number as a value. -/
def ofNat (n : Nat) : Json := .number (.natural n)

/-- A string, or null where there is none. -/
def ofString? : Option String → Json
  | some s => .string s
  | none => .null

/-- A whole number, or null where there is none. -/
def ofNat? : Option Nat → Json
  | some n => ofNat n
  | none => .null

mutual

/-- How many arrays and objects are nested in each other. -/
def depth : Json → Nat
  | .array items => depthItems items + 1
  | .object fields => depthFields fields + 1
  | _ => 0

/-- The greatest depth of the items. -/
def depthItems : List Json → Nat
  | [] => 0
  | x :: xs => max x.depth (depthItems xs)

/-- The greatest depth of the members. -/
def depthFields : List (String × Json) → Nat
  | [] => 0
  | (_, x) :: xs => max x.depth (depthFields xs)

end

theorem depth_le_of_mem {items : List Json} {x : Json} (h : x ∈ items) :
    x.depth ≤ depthItems items := by
  induction items with
  | nil => cases h
  | cons y ys ih =>
    rw [depthItems]
    cases h with
    | head => exact Nat.le_max_left _ _
    | tail _ h => exact Nat.le_trans (ih h) (Nat.le_max_right _ _)

theorem depth_le_of_mem_fields {fields : List (String × Json)} {entry : String × Json}
    (h : entry ∈ fields) : entry.2.depth ≤ depthFields fields := by
  induction fields with
  | nil => cases h
  | cons first rest ih =>
    rw [depthFields]
    cases h with
    | head => exact Nat.le_max_left _ _
    | tail _ h => exact Nat.le_trans (ih h) (Nat.le_max_right _ _)

end Json

end Rubric
