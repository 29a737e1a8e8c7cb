/-
  Rubric.Conformance.Content

  Checks of the text that stands directly under a heading.

  Every check is a function from what is there to the violations it makes; an
  empty list says that the content is as the rule wants it. Checks of content
  report at the span they are given, those of single paragraphs at the
  paragraph.
-/
import Rubric.Conformance.Violation

namespace Rubric

/-! ## Numbers of blocks -/

/-- Whether a number lies within bounds. -/
def Bounds.admits (bounds : Bounds) (n : Nat) : Bool :=
  bounds.min.all (· ≤ n) && bounds.max.all (n ≤ ·)

/-- Holds a number of blocks against its bounds. Both may be missed. -/
def Bounds.findings (bounds : Bounds) (kind : ContentKind) (found : Nat) : List Finding :=
  (match bounds.min with
    | some min => if found < min then [.tooFew kind min found] else []
    | none => [])
  ++ (match bounds.max with
    | some max => if max < found then [.tooMany kind max found] else []
    | none => [])

/-- Whether one of several lists has fewer items than the least number. -/
def anyShort (min : Option Nat) (lists : List Listing) : Bool :=
  min.any fun m => lists.any fun l => l.items.length < m

/-- Whether one of several lists has more items than the greatest number. -/
def anyLong (max : Option Nat) (lists : List Listing) : Bool :=
  max.any fun m => lists.any fun l => m < l.items.length

/-- Holds the numbers of items of lists against their bounds. The lists are
    judged together, so that there is one finding at most. -/
def Bounds.itemFindings (bounds : Bounds) (lists : List Listing) : List Finding :=
  match bounds.min, bounds.max, anyShort bounds.min lists, anyLong bounds.max lists with
  | some min, some max, true, true => [.itemsOutside min max]
  | _, some max, false, true => [.tooManyItems max]
  | some min, _, true, false => [.tooFewItems min]
  | _, _, _, _ => []

/-! ## Content of one kind -/

/-- Holds paragraphs against patterns in turn; the first has number `index`. -/
def patternViolations (patterns : List Pattern) (heading : Option String) :
    (index : Nat) → List Paragraph → List Violation
  | _, [] => []
  | index, p :: rest =>
    (match patterns[index % patterns.length]? with
      | none => []
      | some pattern =>
        if pattern.isMatch p.content then []
        else [(Finding.paragraph p.content pattern.source).toViolation heading p.position])
    ++ patternViolations patterns heading (index + 1) rest

/-- The violations of findings at one place. -/
def violationsAt (heading : Option String) (position : Span) (findings : List Finding) :
    List Violation :=
  findings.map fun f => f.toViolation heading position

/-- The violations of a rule for paragraphs. -/
def ParagraphRule.violations (rule : ParagraphRule) (heading : Option String) (position : Span)
    (paragraphs : List Paragraph) : List Violation :=
  violationsAt heading position (rule.count.findings .paragraphs paragraphs.length)
    ++ patternViolations rule.patterns heading 0 paragraphs

/-- The violations of bounds on code blocks. -/
def Bounds.codeBlockViolations (bounds : Bounds) (heading : Option String) (position : Span)
    (codeBlocks : List CodeBlock) : List Violation :=
  violationsAt heading position (bounds.findings .codeBlocks codeBlocks.length)

/-- The violations of a rule for lists. -/
def ListRule.violations (rule : ListRule) (heading : Option String) (position : Span)
    (lists : List Listing) : List Violation :=
  violationsAt heading position
    (rule.count.findings .lists lists.length
      ++ (match rule.items with
        | some bounds => bounds.itemFindings lists
        | none => []))

/-- The violations of a rule for a heading, at the heading. -/
def HeadingRule.violations (rule : HeadingRule) (label : Option String) (heading : Heading) :
    List Violation :=
  violationsAt label heading.position
    ((match rule.constant with
      | some text => if heading.content = text then [] else [.title text heading.content]
      | none => [])
    ++ (match rule.pattern with
      | some pattern =>
        if pattern.isMatch heading.content then []
        else [.titlePattern heading.content pattern.source]
      | none => []))

/-! ## Sequences of runs -/

/-- The violations of a slot in a run of its kind. -/
def Slot.violations (slot : Slot) (heading : Option String) (run : ContentRun) :
    List Violation :=
  match slot with
  | .paragraphs rule =>
    match run.paragraphs with
    | some items => rule.violations heading run.position items
    | none => []
  | .codeBlocks rule =>
    match run.codeBlocks with
    | some items => rule.codeBlockViolations heading run.position items
    | none => []
  | .lists rule =>
    match run.lists with
    | some items => rule.violations heading run.position items
    | none => []

/-- The violations of a sequence. Slots are looked at only when there are as many
    runs as slots and every run has the kind of its slot. -/
def sequenceViolations (slots : List Slot) (s : Section) : List Violation :=
  let expected := slots.map fun slot => some slot.kind
  let found := s.content.map ContentRun.kind?
  if slots.length ≠ s.content.length then
    violationsAt s.label? s.position [.sequenceLength slots.length s.content.length]
  else if expected ≠ found then
    violationsAt s.label? s.position [.sequenceOrder expected found]
  else
    (slots.zip s.content).flatMap fun entry => entry.1.violations s.label? entry.2

/-! ## All content of a section -/

/-- Applies a check that may not be asked for. -/
def whenAsked {α : Type} (rule : Option α) (check : α → List Violation) : List Violation :=
  match rule with
  | some r => check r
  | none => []

/-- What a rule finds wrong with the content directly under the heading. -/
def Rule.contentViolations (rule : Rule) (s : Section) : List Violation :=
  whenAsked rule.sequence (fun slots => sequenceViolations slots s)
  ++ (whenAsked rule.heading fun r =>
      match s.heading with
      | some heading => r.violations s.label? heading
      | none => [])
  ++ whenAsked rule.paragraphs (fun r => r.violations s.label? s.position s.paragraphs)
  ++ whenAsked rule.codeBlocks (fun r => r.codeBlockViolations s.label? s.position s.codeBlocks)
  ++ whenAsked rule.lists (fun r => r.violations s.label? s.position s.lists)

end Rubric
