/-
  Rubric.Text.Line

  Cutting a text into lines and putting lines together again.

  A line ends at a line feed, and a carriage return right before that line feed
  belongs to the line end. A carriage return anywhere else is an ordinary
  character of its line. A text that ends in a line feed has no further, empty
  line after it.
-/

namespace Rubric.Text

/-- The lines of a text, without their line ends. -/
def lines : List Char → List (List Char)
  | [] => []
  | '\n' :: cs => [] :: lines cs
  | '\r' :: '\n' :: cs => [] :: lines cs
  | c :: cs =>
    match lines cs with
    | [] => [[c]]
    | l :: ls => (c :: l) :: ls

/-- Lines with a line feed between neighbours. -/
def joinLines : List (List Char) → List Char
  | [] => []
  | [l] => l
  | l :: ls => l ++ '\n' :: joinLines ls

/-- Strings with a line feed between neighbours. -/
def joinStrings (parts : List String) : String :=
  String.intercalate "\n" parts

theorem joinLines_cons_cons (l m : List Char) (ls : List (List Char)) :
    joinLines (l :: m :: ls) = l ++ '\n' :: joinLines (m :: ls) := rfl

theorem lines_nil : lines [] = [] := rfl

end Rubric.Text
