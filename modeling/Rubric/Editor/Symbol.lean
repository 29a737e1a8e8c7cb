/-
  Rubric.Editor.Symbol

  The outline of a document as an editor shows it.
-/
import Rubric.Editor.Position
import Rubric.Outline.Basic

namespace Rubric.Editor

/-- An entry of the outline. -/
structure Symbol where
  name : String
  /-- The level of the heading. -/
  level : Nat
  /-- The whole section. -/
  range : Range
  /-- The heading. -/
  selection : Range
  children : List Symbol
deriving Repr, Inhabited

mutual

/-- The entry of a section, unless it has no heading. -/
def Symbol.ofSection (source : String) : Section → Option Symbol
  | ⟨_, none, _, _, _, _, _, _, _⟩ => none
  | ⟨id, some heading, _, _, _, _, sections, position, _⟩ =>
    some {
      name := if heading.content.isEmpty then id else heading.content
      level := heading.level
      range := .ofSpan source position
      selection := .ofSpan source heading.position
      children := symbolsOf source sections }

/-- The entries of sections; sections without a heading have none. -/
def symbolsOf (source : String) : List Section → List Symbol
  | [] => []
  | s :: rest =>
    match Symbol.ofSection source s with
    | some symbol => symbol :: symbolsOf source rest
    | none => symbolsOf source rest

end

/-- The number by which editors know entries of this kind. -/
def symbolKind : Nat := 15

mutual

/-- The JSON form of an entry. -/
def Symbol.toJson : Symbol → Json
  | ⟨name, level, range, selection, children⟩ =>
    .object ([("name", Json.string name), ("detail", .string s!"h{level}"),
      ("kind", .ofNat symbolKind), ("deprecated", .bool false), ("range", range.toJson),
      ("selectionRange", selection.toJson)]
      ++ (match children with
        | [] => []
        | first :: rest => [("children", .array (first.toJson :: symbolsToJson rest))]))

/-- The JSON forms of entries. -/
def symbolsToJson : List Symbol → List Json
  | [] => []
  | s :: rest => s.toJson :: symbolsToJson rest

end

end Rubric.Editor
