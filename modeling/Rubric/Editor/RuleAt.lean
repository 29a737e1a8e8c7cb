/-
  Rubric.Editor.RuleAt

  The rule that a heading is held to, as an editor explains it.

  Sections and rules are paired by position at every level. Only the lines of a
  heading have a rule; the line of a text without a heading has none.
-/
import Rubric.Template.Rule

namespace Rubric.Editor

/-- Whether a line belongs to a span; lines are counted from 1 here. -/
def coversLine (span : Span) (line : Nat) : Bool :=
  span.start.line ≤ line && line ≤ span.stop.line

/-- A rule with its name and the section it is paired with. -/
structure Pairing where
  name : String
  rule : Rule
  paired : Section
deriving Inhabited

/-- The pairing of the section whose heading is on a line. -/
def pairingAt (line : Nat) : List (String × Rule) → List Section → Option Pairing
  | (name, rule) :: rules,
      ⟨id, heading, paragraphs, codeBlocks, lists, content, sections, position, raw⟩ :: rest =>
    if heading.any fun h => coversLine h.position line then
      some ⟨name, rule,
        ⟨id, heading, paragraphs, codeBlocks, lists, content, sections, position, raw⟩⟩
    else if coversLine position line then
      match rule.sections with
      | some table => pairingAt line table sections
      | none => none
    else pairingAt line rules rest
  | _, _ => none

/-- The pairing of the heading on a line of an editor, which counts from 0. -/
def ruleAt (document : Document) (table : List (String × Rule)) (line : Nat) : Option Pairing :=
  pairingAt (line + 1) table document.sections

/-- What a rule asks of a heading and of the sections below, one line each. -/
def constraints (rule : Rule) : List String :=
  (match rule.heading with
    | some heading =>
      (heading.constant.map fun text => s!"- Heading: `{text}`").toList
        ++ (heading.pattern.map fun p => s!"- Heading pattern: `{p.source}`").toList
    | none => [])
  ++ (match rule.sections with
    | some ((name, first) :: rest) =>
      let names := ((name, first) :: rest).map Prod.fst
      ["- Subsections: " ++ String.intercalate ", " names]
    | _ => [])

/-- The text that explains a rule. -/
def explanation (name : String) (rule : Rule) : String :=
  let optional := if rule.required then "" else " (optional)"
  let description := match rule.description with
    | some text => "\n\n" ++ text
    | none => ""
  let asked := match constraints rule with
    | [] => ""
    | lines => "\n\n" ++ String.intercalate "\n" lines
  s!"**{name}**" ++ optional ++ description ++ asked

end Rubric.Editor
