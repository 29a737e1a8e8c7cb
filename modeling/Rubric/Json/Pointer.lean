/-
  Rubric.Json.Pointer

  Naming a place inside a value by a path of member names and item numbers.

  A pointer is empty, or starts with a slash and has a slash before every step.
  In a step `~1` stands for a slash and `~0` for a tilde.
-/
import Rubric.Json.Basic

namespace Rubric.Json

/-- Replaces `~1` by a slash. -/
def unescapeSlash : List Char → List Char
  | '~' :: '1' :: cs => '/' :: unescapeSlash cs
  | c :: cs => c :: unescapeSlash cs
  | [] => []

/-- Replaces `~0` by a tilde. -/
def unescapeTilde : List Char → List Char
  | '~' :: '0' :: cs => '~' :: unescapeTilde cs
  | c :: cs => c :: unescapeTilde cs
  | [] => []

/-- Cuts a text at its slashes. -/
def splitSteps : List Char → List (List Char)
  | [] => [[]]
  | '/' :: cs => [] :: splitSteps cs
  | c :: cs =>
    match splitSteps cs with
    | [] => [[c]]
    | s :: ss => (c :: s) :: ss

/-- The steps of a pointer. -/
def pointerSteps? (pointer : String) : Option (List String) :=
  match pointer.toList with
  | [] => some []
  | '/' :: cs =>
    some ((splitSteps cs).map fun s => String.ofList (unescapeTilde (unescapeSlash s)))
  | _ => none

/-- The number of an item: decimal digits without a leading zero. -/
def index? (step : String) : Option Nat :=
  match step.toList with
  | [] => none
  | d :: ds =>
    if (d == '0' && !ds.isEmpty) || !(d :: ds).all Char.isDigit then none
    else
      let n := (d :: ds).foldl (fun a d => 10 * a + (d.toNat - '0'.toNat)) 0
      if n ≤ Number.maxNatural then some n else none

/-- The value one step further in. -/
def child? (step : String) : Json → Option Json
  | .object fields => Fields.get? step fields
  | .array items => (index? step).bind fun n => items[n]?
  | _ => none

/-- The value some steps further in. -/
def follow? : List String → Json → Option Json
  | [], value => some value
  | step :: steps, value => (child? step value).bind (follow? steps)

/-- The value a pointer names. -/
def pointer? (value : Json) (pointer : String) : Option Json :=
  (pointerSteps? pointer).bind fun steps => follow? steps value

end Rubric.Json
