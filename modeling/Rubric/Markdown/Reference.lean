/-
  Rubric.Markdown.Reference

  Link reference definitions at the beginning of a paragraph.

  A definition is a label in brackets, a colon, a destination and perhaps a
  title, with at most one line end between any two of these and none after the
  title's line.
-/
import Rubric.Markdown.Table

namespace Rubric.Markdown.Reference

/-- The rest after a closing character; a backslash escapes punctuation, and characters
    in `banned` must not occur bare. -/
def delimited? (close : Char) (banned : List Char) : List Char → Option (List Char)
  | [] => none
  | '\\' :: c :: cs =>
    if Table.isPunctuation c then delimited? close banned cs
    else delimited? close banned (c :: cs)
  | c :: cs =>
    if c == close then some cs
    else if c ∈ banned then none
    else delimited? close banned cs

/-- The rest after a destination without angle brackets; `depth` counts open
    parentheses. -/
def bareDestination? : (depth : Nat) → List Char → Option (List Char)
  | 0, [] => some []
  | _ + 1, [] => none
  | depth, '\\' :: c :: cs =>
    if Table.isPunctuation c then bareDestination? depth cs
    else bareDestination? depth (c :: cs)
  | depth, '(' :: cs => bareDestination? (depth + 1) cs
  | 0, ')' :: _ => none
  | depth + 1, ')' :: cs => bareDestination? depth cs
  | depth, c :: cs =>
    if Text.isGap c || c == '\n' then (if depth == 0 then some (c :: cs) else none)
    else bareDestination? depth cs

/-- The rest after a destination. -/
def destination? : List Char → Option (List Char)
  | '<' :: cs => delimited? '>' ['<', '\n'] cs
  | [] => none
  | c :: cs => if Text.isGap c || c == '\n' then none else bareDestination? 0 (c :: cs)

/-- The rest after blanks with at most one line end among them. -/
def skipBreak (cs : List Char) : List Char :=
  match cs.dropWhile Text.isGap with
  | '\n' :: rest => rest.dropWhile Text.isGap
  | rest => rest

/-- The rest after the end of the line, when only blanks are left on it. -/
def lineEnd? (cs : List Char) : Option (List Char) :=
  match cs.dropWhile Text.isGap with
  | [] => some []
  | '\n' :: rest => some rest
  | _ => none

/-- The rest after a title and the end of its line. -/
def title? (cs : List Char) : Option (List Char) :=
  if !cs.head?.any (fun c => Text.isGap c || c == '\n') then none
  else match skipBreak cs with
    | '"' :: rest => (delimited? '"' [] rest).bind lineEnd?
    | '\'' :: rest => (delimited? '\'' [] rest).bind lineEnd?
    | '(' :: rest => (delimited? ')' ['('] rest).bind lineEnd?
    | _ => none

/-- The rest of a paragraph after a definition at its beginning. -/
def definition? (cs : List Char) : Option (List Char) :=
  match cs.dropWhile Text.isGap with
  | '[' :: ']' :: _ => none
  | '[' :: label =>
    match delimited? ']' ['['] label with
    | some (':' :: rest) =>
      match destination? (skipBreak rest) with
      | some rest =>
        match title? rest with
        | some rest => some rest
        | none => lineEnd? rest
      | none => none
    | _ => none
  | _ => none

end Rubric.Markdown.Reference
