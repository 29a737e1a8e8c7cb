/-
  Rubric.Template.Schema

  Reading rules and templates from JSON values.

  An entry of a template is first read as it is written, field by field, and
  then checked and turned into a rule, for which the patterns in it are compiled.
  Names, shapes and contents are judged from the outside in: what is wrong with
  an entry itself is found before what is wrong with an entry of its table, and a
  table is read in its order.
-/
import Rubric.Template.Rule
import Rubric.Failure

namespace Rubric.Schema

open Rubric.Json

/-! ## Entries as they are written -/

/-- The fields of a rule for a heading. -/
structure HeadingEntry where
  constant : Option String := none
  pattern : Option String := none
deriving DecidableEq, Repr, Inhabited

/-- The fields of a rule for paragraphs. -/
structure ParagraphEntry where
  count : Bounds := {}
  patterns : List String := []
deriving DecidableEq, Repr, Inhabited

/-- The fields of an item of a sequence. -/
structure SlotEntry where
  paragraphs : Option ParagraphEntry := none
  codeBlocks : Option Bounds := none
  lists : Option ListRule := none
deriving DecidableEq, Repr, Inhabited

/-- The fields of a rule for a section, without its table. -/
structure SectionEntry where
  description : Option String := none
  heading : Option HeadingEntry := none
  required : Bool := true
  paragraphs : Option ParagraphEntry := none
  codeBlocks : Option Bounds := none
  lists : Option ListRule := none
  sequence : Option (List SlotEntry) := none
  instructions : Option (List String) := none
  additionalSections : Bool := false
deriving DecidableEq, Repr, Inhabited

/-! ## Their shapes -/

/-- The shape of bounds. -/
def boundsLayout : Layout Bounds where
  name := "CountRule"
  closed := true
  fields := [
    .of "min" .omittable (readOption readSize) fun x b => { b with min := x },
    .of "max" .omittable (readOption readSize) fun x b => { b with max := x }]

/-- Reads bounds. -/
def readBounds : Reader Bounds := boundsLayout.read .value {}

/-- The shape of a rule for a heading. -/
def headingLayout : Layout HeadingEntry where
  name := "RawHeading"
  closed := true
  fields := [
    .of "const" .omittable (readOption readText) fun x h => { h with constant := x },
    .of "pattern" .omittable (readOption readText) fun x h => { h with pattern := x }]

/-- The shape of a rule for paragraphs. -/
def paragraphLayout : Layout ParagraphEntry where
  name := "RawParagraphs"
  closed := true
  fields := [
    .of "min" .omittable (readOption readSize) fun x p =>
      { p with count := { p.count with min := x } },
    .of "max" .omittable (readOption readSize) fun x p =>
      { p with count := { p.count with max := x } },
    .of "patterns" .defaulted (readList readText) fun x p => { p with patterns := x }]

/-- Reads a rule for paragraphs. -/
def readParagraphs : Reader ParagraphEntry := paragraphLayout.read .value {}

/-- The shape of a rule for lists. -/
def listLayout : Layout ListRule where
  name := "RawLists"
  closed := true
  fields := [
    .of "min" .omittable (readOption readSize) fun x l =>
      { l with count := { l.count with min := x } },
    .of "max" .omittable (readOption readSize) fun x l =>
      { l with count := { l.count with max := x } },
    .of "items" .omittable (readOption readBounds) fun x l => { l with items := x }]

/-- Reads a rule for lists. -/
def readLists : Reader ListRule := listLayout.read .value {}

/-- The shape of an item of a sequence. -/
def slotLayout : Layout SlotEntry where
  name := "RawSequenceItem"
  closed := true
  fields := [
    .of "paragraphs" .omittable (readOption readParagraphs) fun x s => { s with paragraphs := x },
    .of "code_blocks" .omittable (readOption readBounds) fun x s => { s with codeBlocks := x },
    .of "lists" .omittable (readOption readLists) fun x s => { s with lists := x }]

/-- The name of the field that holds a table. -/
def tableKey : String := "sections"

/-- The shape of a rule for a section. Of the table only the shape is looked at:
    its entries are read one by one later. -/
def sectionLayout : Layout SectionEntry where
  name := "RawTemplateSection"
  closed := true
  fields := [
    .of "description" .omittable (readOption readText) fun x s => { s with description := x },
    .of "heading" .omittable (readOption (headingLayout.read .value {})) fun x s =>
      { s with heading := x },
    .of "required" .defaulted readBool fun x s => { s with required := x },
    .of "paragraphs" .omittable (readOption readParagraphs) fun x s => { s with paragraphs := x },
    .of "code_blocks" .omittable (readOption readBounds) fun x s => { s with codeBlocks := x },
    .of "lists" .omittable (readOption readLists) fun x s => { s with lists := x },
    .of "sequence" .omittable (readOption (readList (slotLayout.read .value {}))) fun x s =>
      { s with sequence := x },
    .of "instructions" .omittable (readOption (readList readText)) fun x s =>
      { s with instructions := x },
    .of "additionalSections" .defaulted readBool fun x s => { s with additionalSections := x },
    .of tableKey .omittable (readOption readMap) fun _ s => s]

/-- The shape of a template. -/
def templateLayout : Layout (Option String) where
  name := "RawTemplate"
  closed := true
  fields := [
    .of "description" .omittable (readOption readText) fun x _ => x,
    .of tableKey .omittable (readOption readMap) fun _ d => d]

/-- Reads a value of a shape; `path` is where it stands. -/
def readAt {α : Type} (path : String) (read : Reader α) (value : Json) : Except Failure α :=
  match readJson read value with
  | .ok x => .ok x
  | .error misfit => .error (Failure.ofText s!"{path}: {(Cause.json misfit).toText}")

/-! ## From entries to rules -/

section
variable (regex : Regex.Compiler)

/-- A pattern from its text. -/
def compile (path pattern : String) : Except Failure Pattern :=
  match regex pattern with
  | some p => .ok p
  | none => .error ⟨[s!"{path}: invalid regex \"{pattern}\""], .regex⟩

/-- Patterns from their texts, the first being number `index`. -/
def compileAll (path : String) : (index : Nat) → List String → Except Failure (List Pattern)
  | _, [] => .ok []
  | index, text :: rest =>
    match compile regex s!"{path}.patterns[{index}]" text with
    | .error e => .error e
    | .ok pattern =>
      match compileAll path (index + 1) rest with
      | .error e => .error e
      | .ok patterns => .ok (pattern :: patterns)

/-- A rule for paragraphs from its entry. -/
def ParagraphEntry.toRule (path : String) (entry : ParagraphEntry) :
    Except Failure ParagraphRule :=
  match compileAll regex path 0 entry.patterns with
  | .error e => .error e
  | .ok patterns => .ok ⟨entry.count, patterns⟩

/-- A rule for a heading from its entry. -/
def HeadingEntry.toRule (path : String) (entry : HeadingEntry) : Except Failure HeadingRule :=
  match entry.pattern with
  | none => .ok ⟨entry.constant, none⟩
  | some text =>
    match compile regex s!"{path}.heading.pattern" text with
    | .error e => .error e
    | .ok pattern => .ok ⟨entry.constant, some pattern⟩

/-- A slot from its entry, which has to name exactly one kind of content. -/
def SlotEntry.toSlot (path : String) (entry : SlotEntry) : Except Failure Slot :=
  match entry.paragraphs, entry.codeBlocks, entry.lists with
  | some p, none, none =>
    match p.toRule regex s!"{path}.paragraphs" with
    | .error e => .error e
    | .ok rule => .ok (.paragraphs rule)
  | none, some bounds, none => .ok (.codeBlocks bounds)
  | none, none, some rule => .ok (.lists rule)
  | _, _, _ =>
    .error (Failure.ofText
      s!"{path}: must declare exactly one of `paragraphs`, `code_blocks` or `lists`")

/-- Slots from their entries, the first being number `index`. -/
def toSlots (path : String) : (index : Nat) → List SlotEntry → Except Failure (List Slot)
  | _, [] => .ok []
  | index, entry :: rest =>
    match entry.toSlot regex s!"{path}.sequence[{index}]" with
    | .error e => .error e
    | .ok slot =>
      match toSlots path (index + 1) rest with
      | .error e => .error e
      | .ok slots => .ok (slot :: slots)

/-- Whether an entry has both a sequence and a rule for one kind of content. -/
def SectionEntry.overlaps (entry : SectionEntry) : Bool :=
  entry.sequence.isSome
    && (entry.paragraphs.isSome || entry.codeBlocks.isSome || entry.lists.isSome)

/-- Applies a checked step to a value that may be absent. -/
def checkOption {α β : Type} (check : α → Except Failure β) :
    Option α → Except Failure (Option β)
  | none => .ok none
  | some x =>
    match check x with
    | .error e => .error e
    | .ok y => .ok (some y)

/-- The slots of a sequence, which must not be empty. -/
def toSequence (path : String) (entries : List SlotEntry) : Except Failure (List Slot) :=
  if entries.isEmpty then
    .error (Failure.ofText s!"{path}.sequence: must contain at least one item")
  else toSlots regex path 0 entries

/-- A rule without a table from its entry. -/
def SectionEntry.toRule (path : String) (entry : SectionEntry) : Except Failure Rule :=
  if entry.overlaps then
    .error (Failure.ofText
      s!"{path}: `sequence` cannot be combined with `paragraphs`, `code_blocks` or `lists`")
  else
    match checkOption (HeadingEntry.toRule regex path) entry.heading with
    | .error e => .error e
    | .ok heading =>
      match checkOption (ParagraphEntry.toRule regex s!"{path}.paragraphs") entry.paragraphs with
      | .error e => .error e
      | .ok paragraphs =>
        match checkOption (toSequence regex path) entry.sequence with
        | .error e => .error e
        | .ok sequence =>
          .ok { description := entry.description
                heading := heading
                required := entry.required
                paragraphs := paragraphs
                codeBlocks := entry.codeBlocks
                lists := entry.lists
                sequence := sequence
                instructions := entry.instructions.getD []
                additionalSections := entry.additionalSections
                sections := none }

/-! ## Rules and tables -/

/-- Whether a character may stand in the name of a rule. -/
def isNameChar (c : Char) : Bool :=
  c.isAlphanum || c == '-' || c == '_'

/-- Whether a text may be the name of a rule. -/
def isName (name : String) : Bool :=
  !name.isEmpty && name.toList.all isNameChar

/-- Refuses a text that cannot be a name. -/
def checkName (path name : String) : Except Failure Unit :=
  if isName name then .ok ()
  else .error (Failure.ofText
    s!"{path}: name must only contain letters, digits, '-' or '_'")

/-- The path of an entry of the table that stands at a path. -/
def childPath (path name : String) : String :=
  s!"{path}.sections.{name}"

/-- The place of the table among the fields of a rule. -/
def tableIndex : Nat := 9

mutual

/-- The rule that a value describes; `path` is where the value stands. -/
def ruleWith (path : String) : Json → Except Failure Rule
  | .object fields =>
    match readAt path (sectionLayout.read .value {}) (.object fields) with
    | .error e => .error e
    | .ok entry =>
      match entry.toRule regex path with
      | .error e => .error e
      | .ok rule =>
        match memberTable path fields with
        | .error e => .error e
        | .ok table => .ok { rule with sections := table }
  | .array items =>
    match readAt path (sectionLayout.read .value {}) (.array items) with
    | .error e => .error e
    | .ok entry =>
      match entry.toRule regex path with
      | .error e => .error e
      | .ok rule =>
        match itemTable path tableIndex items with
        | .error e => .error e
        | .ok table => .ok { rule with sections := table }
  | value =>
    match readAt path (sectionLayout.read .value {}) value with
    | .error e => .error e
    | .ok entry => entry.toRule regex path

/-- The table among the members of an entry. -/
def memberTable (path : String) :
    List (String × Json) → Except Failure (Option (List (String × Rule)))
  | [] => .ok none
  | (name, value) :: rest =>
    if name = tableKey then tableOf path value else memberTable path rest

/-- The table that is the item of an index. -/
def itemTable (path : String) :
    Nat → List Json → Except Failure (Option (List (String × Rule)))
  | _, [] => .ok none
  | 0, value :: _ => tableOf path value
  | n + 1, _ :: rest => itemTable path n rest

/-- The table that a value describes, if it is there. -/
def tableOf (path : String) : Json → Except Failure (Option (List (String × Rule)))
  | .object fields =>
    match tableInto path [] fields with
    | .error e => .error e
    | .ok table => .ok (some table)
  | _ => .ok none

/-- A table and the rules that the members describe. -/
def tableInto (path : String) (table : List (String × Rule)) :
    List (String × Json) → Except Failure (List (String × Rule))
  | [] => .ok table
  | (name, value) :: rest =>
    match checkName (childPath path name) name with
    | .error e => .error e
    | .ok _ =>
      match ruleWith (childPath path name) value with
      | .error e => .error e
      | .ok rule => tableInto path (Fields.insert name rule table) rest

end

/-- The path of a template in messages. -/
def templatePath (name : String) : String :=
  s!"templates.{name}"

/-- The table of a template. -/
def templateTable (path : String) :
    Json → Except Failure (Option (List (String × Rule)))
  | .object fields => memberTable regex path fields
  | .array items => itemTable regex path 1 items
  | _ => .ok none

/-- The template that a value describes. -/
def templateWith (name : String) (value : Json) : Except Failure Template :=
  match checkName (templatePath name) name with
  | .error e => .error e
  | .ok _ =>
    match readAt (templatePath name) (templateLayout.read .value none) value with
    | .error e => .error e
    | .ok description =>
      match templateTable regex (templatePath name) value with
      | .error e => .error e
      | .ok table => .ok ⟨name, description, table.getD []⟩

end

end Rubric.Schema
