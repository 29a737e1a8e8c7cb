/-
  Rubric.Proofs.Template.Meaning

  The schema of template files, and the rules that values of it describe.

  `Fits` says which values are entries of a template, by recursion on the tables
  in them. `Describes` says which rule an entry describes, field by field: what
  the value of a field means, or the default where the field is left out. The
  values that fit are exactly those that describe a rule, and every rule that is
  described is well-formed at every depth.
-/
import Rubric.Proofs.Json.Shape
import Rubric.Template.Schema

namespace Rubric.Schema

open Rubric.Json

/-! ## Shapes -/

/-- The fields of bounds. -/
def boundsShape : List (String × Absence) :=
  [("min", .omittable), ("max", .omittable)]

/-- The fields of a rule for a heading. -/
def headingShape : List (String × Absence) :=
  [("const", .omittable), ("pattern", .omittable)]

/-- The fields of a rule for paragraphs. -/
def paragraphShape : List (String × Absence) :=
  [("min", .omittable), ("max", .omittable), ("patterns", .defaulted)]

/-- The fields of a rule for lists. -/
def listShape : List (String × Absence) :=
  [("min", .omittable), ("max", .omittable), ("items", .omittable)]

/-- The names of the three kinds of content. -/
def contentKeys : List String :=
  ["paragraphs", "code_blocks", "lists"]

/-- The fields of an item of a sequence. -/
def slotShape : List (String × Absence) :=
  [("paragraphs", .omittable), ("code_blocks", .omittable), ("lists", .omittable)]

/-- The fields of a rule for a section. -/
def sectionShape : List (String × Absence) :=
  [("description", .omittable), ("heading", .omittable), ("required", .defaulted),
   ("paragraphs", .omittable), ("code_blocks", .omittable), ("lists", .omittable),
   ("sequence", .omittable), ("instructions", .omittable), ("additionalSections", .defaulted),
   (tableKey, .omittable)]

/-- The fields of a template. -/
def templateShape : List (String × Absence) :=
  [("description", .omittable), (tableKey, .omittable)]

/-! ## Values that fit -/

/-- A value is there, and is not null. -/
def Given (found : Option Json) : Prop :=
  ∃ v, found = some v ∧ v ≠ .null

/-- If there is a value, it fits. -/
def Permits (fits : Json → Prop) (found : Option Json) : Prop :=
  ∀ v, found = some v → fits v

/-- A value is null, or fits. -/
def Nullable (fits : Json → Prop) (v : Json) : Prop :=
  v = .null ∨ fits v

/-- A value is an array of values that fit. -/
def Items (fits : Json → Prop) (v : Json) : Prop :=
  ∃ items, v = .array items ∧ ∀ item ∈ items, fits item

def FitsText (v : Json) : Prop :=
  ∃ s, v = .string s

def FitsBool (v : Json) : Prop :=
  ∃ b, v = .bool b

def FitsSize (v : Json) : Prop :=
  ∃ n < 2 ^ 64, v = .number (.natural n)

section
variable (regex : Regex.Compiler)

def FitsPattern (v : Json) : Prop :=
  ∃ text, v = .string text ∧ (regex text).isSome

def FitsBounds (v : Json) : Prop :=
  ∃ members, Spelled boundsShape v members ∧
    Permits (Nullable FitsSize) (Fields.get? "min" members) ∧
    Permits (Nullable FitsSize) (Fields.get? "max" members)

def FitsHeading (v : Json) : Prop :=
  ∃ members, Spelled headingShape v members ∧
    Permits (Nullable FitsText) (Fields.get? "const" members) ∧
    Permits (Nullable (FitsPattern regex)) (Fields.get? "pattern" members)

def FitsParagraphs (v : Json) : Prop :=
  ∃ members, Spelled paragraphShape v members ∧
    Permits (Nullable FitsSize) (Fields.get? "min" members) ∧
    Permits (Nullable FitsSize) (Fields.get? "max" members) ∧
    Permits (Items (FitsPattern regex)) (Fields.get? "patterns" members)

def FitsLists (v : Json) : Prop :=
  ∃ members, Spelled listShape v members ∧
    Permits (Nullable FitsSize) (Fields.get? "min" members) ∧
    Permits (Nullable FitsSize) (Fields.get? "max" members) ∧
    Permits (Nullable FitsBounds) (Fields.get? "items" members)

/-- The rules for the three kinds of content among some members. -/
structure FitsContent (members : List (String × Json)) : Prop where
  paragraphs : Permits (Nullable (FitsParagraphs regex)) (Fields.get? "paragraphs" members)
  codeBlocks : Permits (Nullable FitsBounds) (Fields.get? "code_blocks" members)
  lists : Permits (Nullable FitsLists) (Fields.get? "lists" members)

/-- An item of a sequence is about exactly one kind of content. -/
def FitsSlot (v : Json) : Prop :=
  ∃ members, Spelled slotShape v members ∧ FitsContent regex members ∧
    ∃! key, key ∈ contentKeys ∧ Given (Fields.get? key members)

/-- A sequence has at least one item. -/
def FitsSequence (v : Json) : Prop :=
  v ≠ .array [] ∧ Items (FitsSlot regex) v

/-- The members of an entry apart from its table. A sequence stands without rules for
    kinds of content. -/
structure FitsFields (members : List (String × Json)) : Prop where
  description : Permits (Nullable FitsText) (Fields.get? "description" members)
  heading : Permits (Nullable (FitsHeading regex)) (Fields.get? "heading" members)
  required : Permits FitsBool (Fields.get? "required" members)
  content : FitsContent regex members
  sequence : Permits (Nullable (FitsSequence regex)) (Fields.get? "sequence" members)
  instructions : Permits (Nullable (Items FitsText)) (Fields.get? "instructions" members)
  additionalSections : Permits FitsBool (Fields.get? "additionalSections" members)
  exclusive : Given (Fields.get? "sequence" members) →
    ∀ key ∈ contentKeys, ¬ Given (Fields.get? key members)

mutual

/-- A value is an entry of a template. -/
inductive Fits : Json → Prop
  | intro {v : Json} {members : List (String × Json)} (hspelled : Spelled sectionShape v members)
      (hfields : FitsFields regex members) (htable : FitsTable (Fields.get? tableKey members)) :
      Fits v

/-- The value of a field is a table of entries with names, or there is no table. -/
inductive FitsTable : Option Json → Prop
  | absent : FitsTable none
  | null : FitsTable (some .null)
  | object {entries : List (String × Json)} (hnames : ∀ entry ∈ entries, isName entry.1)
      (hentries : ∀ entry ∈ entries, Fits entry.2) : FitsTable (some (.object entries))

end

/-! ## What values describe -/

/-- A value is the text of a pattern. -/
def IsPattern (v : Json) (pattern : Pattern) : Prop :=
  ∃ text, v = .string text ∧ regex text = some pattern

def DescribesBounds (v : Json) (b : Bounds) : Prop :=
  ∃ members, Spelled boundsShape v members ∧
    Optional IsSize (Fields.get? "min" members) b.min ∧
    Optional IsSize (Fields.get? "max" members) b.max

def DescribesHeading (v : Json) (h : HeadingRule) : Prop :=
  ∃ members, Spelled headingShape v members ∧
    Optional IsText (Fields.get? "const" members) h.constant ∧
    Optional (IsPattern regex) (Fields.get? "pattern" members) h.pattern

def DescribesParagraphs (v : Json) (p : ParagraphRule) : Prop :=
  ∃ members, Spelled paragraphShape v members ∧
    Optional IsSize (Fields.get? "min" members) p.count.min ∧
    Optional IsSize (Fields.get? "max" members) p.count.max ∧
    Defaulted [] (EachOf (IsPattern regex)) (Fields.get? "patterns" members) p.patterns

def DescribesLists (v : Json) (l : ListRule) : Prop :=
  ∃ members, Spelled listShape v members ∧
    Optional IsSize (Fields.get? "min" members) l.count.min ∧
    Optional IsSize (Fields.get? "max" members) l.count.max ∧
    Optional DescribesBounds (Fields.get? "items" members) l.items

/-- The rules for the three kinds of content that some members describe. -/
structure DescribesContent (members : List (String × Json)) (paragraphs : Option ParagraphRule)
    (codeBlocks : Option Bounds) (lists : Option ListRule) : Prop where
  paragraphs : Optional (DescribesParagraphs regex) (Fields.get? "paragraphs" members) paragraphs
  codeBlocks : Optional DescribesBounds (Fields.get? "code_blocks" members) codeBlocks
  lists : Optional DescribesLists (Fields.get? "lists" members) lists

/-- An item of a sequence describes a slot through the one rule that it has. -/
def DescribesSlot (v : Json) (slot : Slot) : Prop :=
  ∃ members, Spelled slotShape v members ∧
    match slot with
    | .paragraphs p => DescribesContent regex members (some p) none none
    | .codeBlocks b => DescribesContent regex members none (some b) none
    | .lists l => DescribesContent regex members none none (some l)

def DescribesSequence (v : Json) (slots : List Slot) : Prop :=
  slots ≠ [] ∧ EachOf (DescribesSlot regex) v slots

/-- What the members of an entry apart from its table say of a rule. -/
structure DescribesFields (members : List (String × Json)) (r : Rule) : Prop where
  description : Optional IsText (Fields.get? "description" members) r.description
  heading : Optional (DescribesHeading regex) (Fields.get? "heading" members) r.heading
  required : Defaulted true IsBool (Fields.get? "required" members) r.required
  content : DescribesContent regex members r.paragraphs r.codeBlocks r.lists
  sequence : Optional (DescribesSequence regex) (Fields.get? "sequence" members) r.sequence
  instructions : ∃ texts, Optional (EachOf IsText) (Fields.get? "instructions" members) texts ∧
    r.instructions = texts.getD []
  additionalSections :
    Defaulted false IsBool (Fields.get? "additionalSections" members) r.additionalSections
  exclusive : r.sequence.isSome → r.paragraphs = none ∧ r.codeBlocks = none ∧ r.lists = none

mutual

/-- A value describes a rule. -/
inductive Describes : Json → Rule → Prop
  | intro {v : Json} {members : List (String × Json)} {r : Rule}
      (hspelled : Spelled sectionShape v members) (hfields : DescribesFields regex members r)
      (htable : DescribesTable (Fields.get? tableKey members) r.sections) : Describes v r

/-- The value of a field describes a table. The table has the names of the entries in
    source order, each once, and under each name the rule that the last entry of this name
    describes. Entries that are replaced have to describe rules as well. -/
inductive DescribesTable : Option Json → Option (List (String × Rule)) → Prop
  | absent : DescribesTable none none
  | null : DescribesTable (some .null) none
  | object {entries : List (String × Json)} {table : List (String × Rule)} (rules : Json → Rule)
      (hnames : ∀ entry ∈ entries, isName entry.1)
      (hrules : ∀ entry ∈ entries, Describes entry.2 (rules entry.2))
      (hkeys : Fields.names table = (Fields.names entries).eraseDups)
      (hlast : ∀ name, Fields.get? name table = (Fields.get? name entries.reverse).map rules) :
      DescribesTable (some (.object entries)) (some table)

end

/-- A value describes a template. -/
structure DescribesTemplate (v : Json) (t : Template) : Prop where
  name : isName t.name
  content : ∃ members table, Spelled templateShape v members ∧
    Optional IsText (Fields.get? "description" members) t.description ∧
    DescribesTable regex (Fields.get? tableKey members) table ∧ t.sections = table.getD []

end

/-! ## What fits describes something -/

section Existence

variable {α : Type} {means : Json → α → Prop} {fits : Json → Prop}

theorem exists_defaulted_iff (h : ∀ v, (∃ x, means v x) ↔ fits v) {default : α}
    {found : Option Json} : (∃ x, Defaulted default means found x) ↔ Permits fits found := by
  cases found with
  | none => simp [Permits, defaulted_none_iff]
  | some v => simp [Permits, defaulted_some_iff, h]

theorem exists_orNull_iff (h : ∀ v, (∃ x, means v x) ↔ fits v) (v : Json) :
    (∃ x, OrNull means v x) ↔ Nullable fits v := by
  constructor
  · rintro ⟨x, hx⟩
    cases hx with
    | null => exact .inl rfl
    | given _ hx => exact .inr ((h v).1 ⟨_, hx⟩)
  · intro hv
    by_cases hnull : v = .null
    · exact ⟨none, hnull ▸ .null⟩
    · obtain ⟨x, hx⟩ := (h v).2 (hv.resolve_left hnull)
      exact ⟨some x, .given hnull hx⟩

theorem exists_optional_iff (h : ∀ v, (∃ x, means v x) ↔ fits v) {found : Option Json} :
    (∃ x, Optional means found x) ↔ Permits (Nullable fits) found :=
  exists_defaulted_iff (exists_orNull_iff h)

theorem exists_forall₂_iff (h : ∀ v, (∃ x, means v x) ↔ fits v) {items : List Json} :
    (∃ xs, List.Forall₂ means items xs) ↔ ∀ item ∈ items, fits item := by
  induction items with
  | nil => simp
  | cons v rest ih =>
    rw [List.forall_mem_cons, ← ih, ← h]
    constructor
    · rintro ⟨xs, hxs⟩
      obtain ⟨x, xs, hx, hrest, rfl⟩ := List.forall₂_cons_left_iff.1 hxs
      exact ⟨⟨x, hx⟩, xs, hrest⟩
    · rintro ⟨⟨x, hx⟩, xs, hrest⟩
      exact ⟨x :: xs, .cons hx hrest⟩

theorem exists_eachOf_iff (h : ∀ v, (∃ x, means v x) ↔ fits v) (v : Json) :
    (∃ xs, EachOf means v xs) ↔ Items fits v := by
  constructor
  · rintro ⟨xs, items, rfl, hxs⟩
    exact ⟨items, rfl, (exists_forall₂_iff h).1 ⟨xs, hxs⟩⟩
  · rintro ⟨items, rfl, hitems⟩
    obtain ⟨xs, hxs⟩ := (exists_forall₂_iff h).2 hitems
    exact ⟨xs, items, rfl, hxs⟩

/-- A field has a value exactly if something is given for it. -/
theorem isSome_iff_given {found : Option Json} {x : Option α} (h : Optional means found x) :
    x.isSome ↔ Given found := by
  cases h with
  | absent => simp [Given]
  | given h =>
    cases h with
    | null => simp [Given]
    | given hv _ => simp [Given, hv]

theorem exists_of_optional_some {found : Option Json} {x : α} (h : Optional means found (some x)) :
    ∃ v, found = some v ∧ means v x := by
  cases h with
  | given h =>
    cases h with
    | given _ h => exact ⟨_, rfl, h⟩

end Existence

theorem exists_isText_iff (v : Json) : (∃ s, IsText v s) ↔ FitsText v := Iff.rfl

theorem exists_isBool_iff (v : Json) : (∃ b, IsBool v b) ↔ FitsBool v := Iff.rfl

theorem exists_isSize_iff (v : Json) : (∃ n, IsSize v n) ↔ FitsSize v := by
  simp only [IsSize, FitsSize, and_comm]

variable {regex : Regex.Compiler}

theorem exists_isPattern_iff (v : Json) : (∃ p, IsPattern regex v p) ↔ FitsPattern regex v := by
  simp only [IsPattern, FitsPattern, Option.isSome_iff_exists]
  constructor
  · rintro ⟨p, text, hv, hp⟩
    exact ⟨text, hv, p, hp⟩
  · rintro ⟨text, hv, p, hp⟩
    exact ⟨p, text, hv, hp⟩

theorem exists_describesBounds_iff (v : Json) : (∃ b, DescribesBounds v b) ↔ FitsBounds v := by
  simp only [FitsBounds, ← exists_optional_iff exists_isSize_iff]
  constructor
  · rintro ⟨b, members, hspelled, hmin, hmax⟩
    exact ⟨members, hspelled, ⟨_, hmin⟩, _, hmax⟩
  · rintro ⟨members, hspelled, ⟨min, hmin⟩, max, hmax⟩
    exact ⟨⟨min, max⟩, members, hspelled, hmin, hmax⟩

theorem exists_describesHeading_iff (v : Json) :
    (∃ h, DescribesHeading regex v h) ↔ FitsHeading regex v := by
  simp only [FitsHeading, ← exists_optional_iff exists_isText_iff,
    ← exists_optional_iff exists_isPattern_iff]
  constructor
  · rintro ⟨h, members, hspelled, hconstant, hpattern⟩
    exact ⟨members, hspelled, ⟨_, hconstant⟩, _, hpattern⟩
  · rintro ⟨members, hspelled, ⟨constant, hconstant⟩, pattern, hpattern⟩
    exact ⟨⟨constant, pattern⟩, members, hspelled, hconstant, hpattern⟩

theorem exists_describesParagraphs_iff (v : Json) :
    (∃ p, DescribesParagraphs regex v p) ↔ FitsParagraphs regex v := by
  simp only [FitsParagraphs, ← exists_optional_iff exists_isSize_iff,
    ← @exists_defaulted_iff _ _ _ (exists_eachOf_iff exists_isPattern_iff) []]
  constructor
  · rintro ⟨p, members, hspelled, hmin, hmax, hpatterns⟩
    exact ⟨members, hspelled, ⟨_, hmin⟩, ⟨_, hmax⟩, _, hpatterns⟩
  · rintro ⟨members, hspelled, ⟨min, hmin⟩, ⟨max, hmax⟩, patterns, hpatterns⟩
    exact ⟨⟨⟨min, max⟩, patterns⟩, members, hspelled, hmin, hmax, hpatterns⟩

theorem exists_describesLists_iff (v : Json) : (∃ l, DescribesLists v l) ↔ FitsLists v := by
  simp only [FitsLists, ← exists_optional_iff exists_isSize_iff,
    ← exists_optional_iff exists_describesBounds_iff]
  constructor
  · rintro ⟨l, members, hspelled, hmin, hmax, hitems⟩
    exact ⟨members, hspelled, ⟨_, hmin⟩, ⟨_, hmax⟩, _, hitems⟩
  · rintro ⟨members, hspelled, ⟨min, hmin⟩, ⟨max, hmax⟩, items, hitems⟩
    exact ⟨⟨⟨min, max⟩, items⟩, members, hspelled, hmin, hmax, hitems⟩

theorem exists_describesContent_iff (members : List (String × Json)) :
    (∃ p b l, DescribesContent regex members p b l) ↔ FitsContent regex members := by
  constructor
  · rintro ⟨p, b, l, hp, hb, hl⟩
    exact ⟨(exists_optional_iff exists_describesParagraphs_iff).1 ⟨p, hp⟩,
      (exists_optional_iff exists_describesBounds_iff).1 ⟨b, hb⟩,
      (exists_optional_iff exists_describesLists_iff).1 ⟨l, hl⟩⟩
  · rintro ⟨hp, hb, hl⟩
    obtain ⟨p, hp⟩ := (exists_optional_iff exists_describesParagraphs_iff).2 hp
    obtain ⟨b, hb⟩ := (exists_optional_iff exists_describesBounds_iff).2 hb
    obtain ⟨l, hl⟩ := (exists_optional_iff exists_describesLists_iff).2 hl
    exact ⟨p, b, l, hp, hb, hl⟩

/-- Of the kinds of content, exactly one has a property. -/
theorem existsUnique_contentKeys_iff {P : String → Prop} :
    (∃! key, key ∈ contentKeys ∧ P key) ↔
      (P "paragraphs" ∧ ¬ P "code_blocks" ∧ ¬ P "lists") ∨
      (¬ P "paragraphs" ∧ P "code_blocks" ∧ ¬ P "lists") ∨
      (¬ P "paragraphs" ∧ ¬ P "code_blocks" ∧ P "lists") := by
  constructor
  · rintro ⟨key, ⟨hkey, hP⟩, hunique⟩
    have hothers : ∀ other ∈ contentKeys, other ≠ key → ¬ P other :=
      fun other hother hne hP => hne (hunique other ⟨hother, hP⟩)
    simp only [contentKeys, List.mem_cons, List.not_mem_nil, or_false] at hkey hothers
    rcases hkey with rfl | rfl | rfl
    · exact .inl ⟨hP, hothers _ (by simp) (by decide), hothers _ (by simp) (by decide)⟩
    · exact .inr (.inl ⟨hothers _ (by simp) (by decide), hP, hothers _ (by simp) (by decide)⟩)
    · exact .inr (.inr ⟨hothers _ (by simp) (by decide), hothers _ (by simp) (by decide), hP⟩)
  · simp only [contentKeys, List.mem_cons, List.not_mem_nil, or_false]
    rintro (⟨hp, hc, hl⟩ | ⟨hp, hc, hl⟩ | ⟨hp, hc, hl⟩)
    · refine ⟨"paragraphs", ⟨by simp, hp⟩, ?_⟩
      rintro _ ⟨rfl | rfl | rfl, h⟩
      exacts [rfl, absurd h hc, absurd h hl]
    · refine ⟨"code_blocks", ⟨by simp, hc⟩, ?_⟩
      rintro _ ⟨rfl | rfl | rfl, h⟩
      exacts [absurd h hp, rfl, absurd h hl]
    · refine ⟨"lists", ⟨by simp, hl⟩, ?_⟩
      rintro _ ⟨rfl | rfl | rfl, h⟩
      exacts [absurd h hp, absurd h hc, rfl]

theorem exists_describesSlot_iff (v : Json) :
    (∃ slot, DescribesSlot regex v slot) ↔ FitsSlot regex v := by
  simp only [FitsSlot, existsUnique_contentKeys_iff]
  constructor
  · rintro ⟨slot, members, hspelled, hslot⟩
    -- The three kinds of slots differ in which of the rules is there, and go the same way.
    cases slot <;>
    · refine ⟨members, hspelled, (exists_describesContent_iff members).1 ⟨_, _, _, hslot⟩, ?_⟩
      obtain ⟨hp, hb, hl⟩ := hslot
      simp [← isSome_iff_given hp, ← isSome_iff_given hb, ← isSome_iff_given hl]
  · rintro ⟨members, hspelled, hcontent, hone⟩
    obtain ⟨p, b, l, hdescribes⟩ := (exists_describesContent_iff members).2 hcontent
    obtain ⟨hp, hb, hl⟩ := id hdescribes
    rw [← isSome_iff_given hp, ← isSome_iff_given hb, ← isSome_iff_given hl] at hone
    cases p <;> cases b <;> cases l <;> simp at hone
    · exact ⟨.lists _, members, hspelled, hdescribes⟩
    · exact ⟨.codeBlocks _, members, hspelled, hdescribes⟩
    · exact ⟨.paragraphs _, members, hspelled, hdescribes⟩

theorem exists_describesSequence_iff (v : Json) :
    (∃ slots, DescribesSequence regex v slots) ↔ FitsSequence regex v := by
  rw [FitsSequence, ← exists_eachOf_iff exists_describesSlot_iff]
  constructor
  · rintro ⟨slots, hne, items, rfl, hslots⟩
    refine ⟨?_, slots, items, rfl, hslots⟩
    rintro hempty
    obtain rfl : items = [] := by simpa using hempty
    exact hne (List.forall₂_nil_left_iff.1 hslots)
  · rintro ⟨hne, slots, items, rfl, hslots⟩
    refine ⟨slots, ?_, items, rfl, hslots⟩
    rintro rfl
    exact hne (by rw [List.forall₂_nil_right_iff.1 hslots])

theorem exists_describesFields_iff (members : List (String × Json))
    (table : Option (List (String × Rule))) :
    (∃ r, DescribesFields regex members r ∧ r.sections = table) ↔ FitsFields regex members := by
  have texts := exists_eachOf_iff exists_isText_iff
  constructor
  · rintro ⟨r, h, -⟩
    obtain ⟨instructions, hinstructions, -⟩ := h.instructions
    exact {
      description := (exists_optional_iff exists_isText_iff).1 ⟨_, h.description⟩
      heading := (exists_optional_iff exists_describesHeading_iff).1 ⟨_, h.heading⟩
      required := (exists_defaulted_iff exists_isBool_iff).1 ⟨_, h.required⟩
      content := (exists_describesContent_iff members).1 ⟨_, _, _, h.content⟩
      sequence := (exists_optional_iff exists_describesSequence_iff).1 ⟨_, h.sequence⟩
      instructions := (exists_optional_iff texts).1 ⟨_, hinstructions⟩
      additionalSections := (exists_defaulted_iff exists_isBool_iff).1 ⟨_, h.additionalSections⟩
      exclusive := fun hgiven => by
        obtain ⟨hp, hb, hl⟩ := h.exclusive ((isSome_iff_given h.sequence).2 hgiven)
        simp [contentKeys, ← isSome_iff_given h.content.paragraphs,
          ← isSome_iff_given h.content.codeBlocks, ← isSome_iff_given h.content.lists, hp, hb, hl] }
  · intro h
    obtain ⟨description, hdescription⟩ := (exists_optional_iff exists_isText_iff).2 h.description
    obtain ⟨heading, hheading⟩ := (exists_optional_iff exists_describesHeading_iff).2 h.heading
    obtain ⟨required, hrequired⟩ := (exists_defaulted_iff exists_isBool_iff).2 h.required
    obtain ⟨p, b, l, hcontent⟩ := (exists_describesContent_iff members).2 h.content
    obtain ⟨sequence, hsequence⟩ :=
      (exists_optional_iff exists_describesSequence_iff).2 h.sequence
    obtain ⟨instructions, hinstructions⟩ := (exists_optional_iff texts).2 h.instructions
    obtain ⟨additional, hadditional⟩ :=
      (exists_defaulted_iff exists_isBool_iff).2 h.additionalSections
    refine ⟨⟨description, heading, required, p, b, l, sequence, instructions.getD [], additional,
      table⟩, ⟨hdescription, hheading, hrequired, hcontent, hsequence, ⟨_, hinstructions, rfl⟩,
      hadditional, fun hsome => ?_⟩, rfl⟩
    have hnone := h.exclusive ((isSome_iff_given hsequence).1 hsome)
    simpa [contentKeys, ← isSome_iff_given hcontent.paragraphs,
      ← isSome_iff_given hcontent.codeBlocks, ← isSome_iff_given hcontent.lists] using hnone

mutual

theorem Describes.fits {v : Json} {r : Rule} : Describes regex v r → Fits regex v
  | .intro hspelled hfields htable =>
    .intro hspelled ((exists_describesFields_iff _ _).1 ⟨r, hfields, rfl⟩) htable.fits

theorem DescribesTable.fits {found : Option Json} {table : Option (List (String × Rule))} :
    DescribesTable regex found table → FitsTable regex found
  | .absent => .absent
  | .null => .null
  | .object _ hnames hrules _ _ => .object hnames fun entry hentry => (hrules entry hentry).fits

end

variable (regex) in
/-- The rule that a value describes, if it describes one. -/
noncomputable def described (v : Json) : Rule :=
  Classical.epsilon (Describes regex v)

theorem describes_described {v : Json} (h : ∃ r, Describes regex v r) :
    Describes regex v (described regex v) :=
  Classical.epsilon_spec h

/-- If each entry describes a rule, the entries describe the table that they make up when
    they are put in one after another. -/
theorem describesTable_insertAll {entries : List (String × Json)}
    (hnames : ∀ entry ∈ entries, isName entry.1)
    (hrules : ∀ entry ∈ entries, ∃ r, Describes regex entry.2 r) :
    DescribesTable regex (some (.object entries))
      (some (Fields.insertAll [] (Fields.mapValues (described regex) entries))) := by
  refine .object (described regex) hnames
    (fun entry hentry => describes_described (hrules entry hentry)) ?_ fun name => ?_
  · rw [Fields.names_insertAll_nil, Fields.names_mapValues]
  · exact Fields.get?_insertAll_mapValues (described regex) name entries

mutual

theorem Fits.describes {v : Json} : Fits regex v → ∃ r, Describes regex v r
  | .intro hspelled hfields htable => by
    obtain ⟨table, htable⟩ := htable.describes
    obtain ⟨r, hr, rfl⟩ := (exists_describesFields_iff _ table).2 hfields
    exact ⟨r, .intro hspelled hr htable⟩

theorem FitsTable.describes {found : Option Json} :
    FitsTable regex found → ∃ table, DescribesTable regex found table
  | .absent => ⟨none, .absent⟩
  | .null => ⟨none, .null⟩
  | .object hnames hentries =>
    ⟨_, describesTable_insertAll hnames fun entry hentry => (hentries entry hentry).describes⟩

end

/-- The values that fit are those that describe a rule. -/
theorem fits_iff_exists_describes {v : Json} : Fits regex v ↔ ∃ r, Describes regex v r :=
  ⟨Fits.describes, fun ⟨_, h⟩ => h.fits⟩

/-! ## Well-formed rules -/

mutual

/-- A sequence is not empty and stands without rules for kinds of content, and the table
    is well-formed. -/
inductive RuleWellFormed : Rule → Prop
  | intro {r : Rule}
      (hsequence : ∀ slots, r.sequence = some slots →
        slots ≠ [] ∧ r.paragraphs = none ∧ r.codeBlocks = none ∧ r.lists = none)
      (htable : ∀ table, r.sections = some table → TableWellFormed table) : RuleWellFormed r

/-- The names of a table are distinct and may be names of rules, and its rules are
    well-formed. -/
inductive TableWellFormed : List (String × Rule) → Prop
  | intro {table : List (String × Rule)} (hnodup : (Fields.names table).Nodup)
      (hnames : ∀ name ∈ Fields.names table, isName name)
      (hrules : ∀ entry ∈ table, RuleWellFormed entry.2) : TableWellFormed table

end

theorem DescribesFields.sequence_spec {members : List (String × Json)} {r : Rule}
    (h : DescribesFields regex members r) {slots : List Slot} (hslots : r.sequence = some slots) :
    slots ≠ [] ∧ r.paragraphs = none ∧ r.codeBlocks = none ∧ r.lists = none := by
  have hsequence := h.sequence
  rw [hslots] at hsequence
  obtain ⟨v, _, hne, _⟩ := exists_of_optional_some hsequence
  exact ⟨hne, h.exclusive (by rw [hslots]; rfl)⟩

mutual

theorem Describes.wellFormed {v : Json} {r : Rule} : Describes regex v r → RuleWellFormed r
  | .intro _ hfields htable =>
    .intro (fun _ => hfields.sequence_spec) fun _ hsections => htable.wellFormed hsections

theorem DescribesTable.wellFormed {found : Option Json} {sections : Option (List (String × Rule))}
    {table : List (String × Rule)} :
    DescribesTable regex found sections → sections = some table → TableWellFormed table
  | .absent, hsections => nomatch hsections
  | .null, hsections => nomatch hsections
  | @DescribesTable.object _ entries inner rules hnames hrules hkeys hlast, hsections => by
    obtain rfl : inner = table := Option.some.inj hsections
    have hnodup : (Fields.names inner).Nodup := hkeys ▸ Fields.nodup_eraseDups_names entries
    refine .intro hnodup (fun name hname => ?_) fun entry hentry => ?_
    · rw [hkeys, List.mem_eraseDups] at hname
      obtain ⟨entry, hentry, rfl⟩ := List.mem_map.1 hname
      exact hnames entry hentry
    · -- A rule of the table comes from the last entry of its name.
      have hget := Fields.get?_of_mem hnodup hentry
      rw [hlast, Option.map_eq_some_iff] at hget
      obtain ⟨v, hv, heq⟩ := hget
      have hmem : (entry.1, v) ∈ entries := List.mem_reverse.1 (Fields.mem_of_get? hv)
      exact heq ▸ (hrules _ hmem).wellFormed

end

theorem DescribesTemplate.wellFormed {v : Json} {t : Template} (h : DescribesTemplate regex v t) :
    TableWellFormed t.sections := by
  obtain ⟨members, table, -, -, htable, hsections⟩ := h.content
  rw [hsections]
  cases table with
  | none => exact .intro List.nodup_nil nofun nofun
  | some table => exact htable.wellFormed rfl

end Rubric.Schema
