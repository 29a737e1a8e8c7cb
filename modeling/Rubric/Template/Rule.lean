/-
  Rubric.Template.Rule

  Rules for sections, and the templates they make up.

  A rule says what one section should look like and, through its table of named
  rules, what the sections below it should look like. Tables keep the order in
  which their names were first put in; `Fields.insert` and `Fields.get?` are
  their operations.
-/
import Rubric.Outline.Basic
import Rubric.Json.Basic
import Rubric.Regex.Pattern

namespace Rubric

/-- Bounds on a count, both included and both optional. -/
structure Bounds where
  min : Option Nat := none
  max : Option Nat := none
deriving DecidableEq, Repr, Inhabited

/-- Bounds on the number of paragraphs, and patterns that the paragraphs have to
    match in turn, from the first pattern again after the last. -/
structure ParagraphRule where
  count : Bounds := {}
  patterns : List Pattern := []
deriving Repr, Inhabited

/-- Bounds on the number of lists, and on the number of items of each. -/
structure ListRule where
  count : Bounds := {}
  items : Option Bounds := none
deriving DecidableEq, Repr, Inhabited

/-- The exact text of a heading, and a pattern for it. -/
structure HeadingRule where
  constant : Option String := none
  pattern : Option Pattern := none
deriving Repr, Inhabited

/-- What is expected at one place of a sequence of content runs. -/
inductive Slot where
  | paragraphs (rule : ParagraphRule)
  | codeBlocks (rule : Bounds)
  | lists (rule : ListRule)
deriving Repr, Inhabited

/-- The kind of content a slot expects. -/
def Slot.kind : Slot → ContentKind
  | .paragraphs _ => .paragraphs
  | .codeBlocks _ => .codeBlocks
  | .lists _ => .lists

/-- What one section should look like. -/
structure Rule where
  description : Option String := none
  heading : Option HeadingRule := none
  required : Bool := true
  paragraphs : Option ParagraphRule := none
  codeBlocks : Option Bounds := none
  lists : Option ListRule := none
  sequence : Option (List Slot) := none
  /-- Instructions that the text of the section has to follow. -/
  instructions : List String := []
  /-- Whether there may be more sections below than the table names. -/
  additionalSections : Bool := false
  sections : Option (List (String × Rule)) := none
deriving Inhabited

/-- The number of required rules of a table. -/
def requiredCount (table : List (String × Rule)) : Nat :=
  table.countP fun entry => entry.2.required

mutual

/-- Whether a rule, or one below it, has instructions. -/
def Rule.hasInstructions : Rule → Bool
  | ⟨_, _, _, _, _, _, _, instructions, _, none⟩ => !instructions.isEmpty
  | ⟨_, _, _, _, _, _, _, instructions, _, some table⟩ =>
    !instructions.isEmpty || anyInstructions table

/-- Whether a rule of a table, or one below it, has instructions. -/
def anyInstructions : List (String × Rule) → Bool
  | [] => false
  | (_, rule) :: rest => rule.hasInstructions || anyInstructions rest

end

/-- A named set of rules for the top-level sections of a document. -/
structure Template where
  name : String
  description : Option String := none
  sections : List (String × Rule) := []
deriving Inhabited

/-- Whether a rule of the template has instructions. -/
def Template.hasInstructions (template : Template) : Bool :=
  anyInstructions template.sections

end Rubric
