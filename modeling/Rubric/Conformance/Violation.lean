/-
  Rubric.Conformance.Violation

  What a document gets wrong.

  A finding says what a rule expects and what it meets instead. A violation is a
  finding put into words, at a place and under the heading of the section it was
  found in.
-/
import Rubric.Template.Rule

namespace Rubric

/-- The kinds of violations. -/
inductive ViolationKind where
  | headingConst
  | headingPattern
  | paragraphsCount
  | codeBlocksCount
  | listsCount
  | listItemsCount
  | paragraphPattern
  | sequenceLength
  | sequenceOrder
  | missingSection
  | sectionCount
  | instruction
deriving DecidableEq, Repr, Inhabited

namespace ViolationKind

/-- The name of a kind in reports and in data. -/
def name : ViolationKind → String
  | headingConst => "heading_const_error"
  | headingPattern => "heading_pattern_error"
  | paragraphsCount => "paragraphs_count_error"
  | codeBlocksCount => "code_blocks_count_error"
  | listsCount => "lists_count_error"
  | listItemsCount => "list_items_count_error"
  | paragraphPattern => "paragraph_pattern_error"
  | sequenceLength => "sequence_length_error"
  | sequenceOrder => "sequence_order_error"
  | missingSection => "missing_section"
  | sectionCount => "section_count_mismatch"
  | instruction => "instruction_error"

/-- All kinds, in the order in which messages list them. -/
def all : List ViolationKind :=
  [headingConst, headingPattern, paragraphsCount, codeBlocksCount, listsCount, listItemsCount,
    paragraphPattern, sequenceLength, sequenceOrder, missingSection, sectionCount, instruction]

/-- The kind that a wrong number of blocks has. -/
def count : ContentKind → ViolationKind
  | .paragraphs => paragraphsCount
  | .codeBlocks => codeBlocksCount
  | .lists => listsCount

end ViolationKind

/-- A violation as it is reported. -/
structure Violation where
  kind : ViolationKind
  /-- The heading of the section it was found in. -/
  heading : Option String
  position : Span
  message : String
deriving DecidableEq, Repr, Inhabited

/-! ## Findings -/

/-- What a rule expects and what it meets instead. -/
inductive Finding where
  | title (expected found : String)
  | titlePattern (found pattern : String)
  | tooFew (kind : ContentKind) (min found : Nat)
  | tooMany (kind : ContentKind) (max found : Nat)
  | itemsOutside (min max : Nat)
  | tooFewItems (min : Nat)
  | tooManyItems (max : Nat)
  | paragraph (content pattern : String)
  | sequenceLength (expected found : Nat)
  | sequenceOrder (expected found : List (Option ContentKind))
  | missingSection (name : String)
  | sectionCount (min max found : Nat)
  | instruction (text explanation : String)
deriving DecidableEq, Repr, Inhabited

namespace Finding

/-- The kind of the violation that a finding makes. -/
def kind : Finding → ViolationKind
  | title _ _ => .headingConst
  | titlePattern _ _ => .headingPattern
  | tooFew kind _ _ => .count kind
  | tooMany kind _ _ => .count kind
  | itemsOutside _ _ => .listItemsCount
  | tooFewItems _ => .listItemsCount
  | tooManyItems _ => .listItemsCount
  | paragraph _ _ => .paragraphPattern
  | sequenceLength _ _ => .sequenceLength
  | sequenceOrder _ _ => .sequenceOrder
  | missingSection _ => .missingSection
  | sectionCount _ _ _ => .sectionCount
  | instruction _ _ => .instruction

/-- What sentences call the blocks of a kind. -/
def noun : ContentKind → String
  | .paragraphs => "paragraphs"
  | .codeBlocks => "code blocks"
  | .lists => "lists"

/-- The name of a run's kind in quotes, or null where it has none. -/
def kindText : Option ContentKind → String
  | some kind => s!"\"{kind.name}\""
  | none => "null"

/-- The kinds of a sequence in brackets. -/
def kindsText (kinds : List (Option ContentKind)) : String :=
  "[" ++ String.intercalate "," (kinds.map kindText) ++ "]"

/-- The end of a sentence, unless it has one already. -/
def fullStop (sentence : String) : String :=
  if sentence.toList.getLast? = some '.' then "" else "."

/-- The sentence that reports a finding. -/
def message : Finding → String
  | title expected found => s!"Expected title \"{expected}\", but found \"{found}\""
  | titlePattern found pattern => s!"Title \"{found}\" doesn't match pattern \"{pattern}\""
  | tooFew kind min found => s!"Expected at least {min} {noun kind}, but found {found}"
  | tooMany kind max found => s!"Expected at most {max} {noun kind}, but found {found}"
  | itemsOutside min max => s!"Expected between {min} and {max} items in a list"
  | tooFewItems min => s!"Expected at least {min} items in a list"
  | tooManyItems max => s!"Expected at most {max} items in a list"
  | paragraph content pattern =>
    s!"Paragraph \"{content}\" doesn't match expected pattern \"{pattern}\""
  | sequenceLength expected found =>
    s!"Expected {expected} content types in sequence, but found {found}"
  | sequenceOrder expected found =>
    s!"Expected {kindsText expected} but found {kindsText found}"
  | missingSection name => s!"Missing section {name}"
  | sectionCount min max found => s!"Expected between {min} and {max} sections, but found {found}"
  | instruction text explanation =>
    s!"Instruction: {text}{fullStop text} Explanation: {explanation}"

/-- The violation that a finding makes at a place under a heading. -/
def toViolation (finding : Finding) (heading : Option String) (position : Span) : Violation :=
  ⟨finding.kind, heading, position, finding.message⟩

end Finding

end Rubric
