/-
  Rubric.Proofs.Template.Entries

  Entries of templates as they are written, and the rules made from them.

  Reading goes through two layers. The first takes a value field by field, the
  second compiles the patterns and judges what is said together. Each layer gets
  its own relation here, without the paths that only messages use, and the two in
  a row are what `Rubric.Proofs.Template.Meaning` says in one.
-/
import Rubric.Proofs.Template.Meaning

namespace Rubric.Schema

open Rubric.Json

/-! ## From values to entries -/

theorem bears_nil {σ : Type} {start s : σ} {members : List (String × Json)} :
    Bears [] start members s ↔ True := by
  simp [Bears]

theorem bears_cons {σ : Type} {a : Aspect σ} {rest : List (Aspect σ)} {start s : σ}
    {members : List (String × Json)} :
    Bears (a :: rest) start members s ↔
      Defaulted (a.get start) a.means (Fields.get? a.name members) (a.get s) ∧
      Bears rest start members s :=
  List.forall_mem_cons

def boundsAspects : List (Aspect Bounds) :=
  [.of "min" .omittable nofun (decides_option decides_size) Bounds.min
     (fun x b => { b with min := x }) fun _ _ => rfl,
   .of "max" .omittable nofun (decides_option decides_size) Bounds.max
     (fun x b => { b with max := x }) fun _ _ => rfl]

theorem covers_bounds : Covers boundsAspects where
  names := by simp [boundsAspects, Aspect.name, Aspect.of, Field.of]
  apart := by simp [boundsAspects, Aspect.name, Aspect.of, Field.of]
  ext := by
    rintro ⟨_, _⟩ ⟨_, _⟩ h
    simpa [boundsAspects, Aspect.of] using h

theorem decides_bounds : Decides readBounds DescribesBounds :=
  (Layout.decides covers_bounds rfl rfl {}).congr fun v b => by
    simp only [boundsAspects, bears_cons, bears_nil, and_true]
    exact Iff.rfl

def listAspects : List (Aspect ListRule) :=
  [.of "min" .omittable nofun (decides_option decides_size) (fun l => l.count.min)
     (fun x l => { l with count := { l.count with min := x } }) fun _ _ => rfl,
   .of "max" .omittable nofun (decides_option decides_size) (fun l => l.count.max)
     (fun x l => { l with count := { l.count with max := x } }) fun _ _ => rfl,
   .of "items" .omittable nofun (decides_option decides_bounds) ListRule.items
     (fun x l => { l with items := x }) fun _ _ => rfl]

theorem covers_lists : Covers listAspects where
  names := by simp [listAspects, Aspect.name, Aspect.of, Field.of]
  apart := by simp [listAspects, Aspect.name, Aspect.of, Field.of]
  ext := by
    rintro ⟨⟨_, _⟩, _⟩ ⟨⟨_, _⟩, _⟩ h
    simpa [listAspects, Aspect.of, and_assoc] using h

theorem decides_lists : Decides readLists DescribesLists :=
  (Layout.decides covers_lists rfl rfl {}).congr fun v l => by
    simp only [listAspects, bears_cons, bears_nil, and_true]
    exact Iff.rfl

def headingAspects : List (Aspect HeadingEntry) :=
  [.of "const" .omittable nofun (decides_option decides_text) HeadingEntry.constant
     (fun x h => { h with constant := x }) fun _ _ => rfl,
   .of "pattern" .omittable nofun (decides_option decides_text) HeadingEntry.pattern
     (fun x h => { h with pattern := x }) fun _ _ => rfl]

theorem covers_heading : Covers headingAspects where
  names := by simp [headingAspects, Aspect.name, Aspect.of, Field.of]
  apart := by simp [headingAspects, Aspect.name, Aspect.of, Field.of]
  ext := by
    rintro ⟨_, _⟩ ⟨_, _⟩ h
    simpa [headingAspects, Aspect.of] using h

/-- What is read of a rule for a heading. -/
def ReadsHeading (v : Json) (h : HeadingEntry) : Prop :=
  ∃ members, Spelled headingShape v members ∧
    Optional IsText (Fields.get? "const" members) h.constant ∧
    Optional IsText (Fields.get? "pattern" members) h.pattern

theorem decides_heading : Decides (headingLayout.read .value {}) ReadsHeading :=
  (Layout.decides covers_heading rfl rfl {}).congr fun v h => by
    simp only [headingAspects, bears_cons, bears_nil, and_true]
    exact Iff.rfl

def paragraphAspects : List (Aspect ParagraphEntry) :=
  [.of "min" .omittable nofun (decides_option decides_size) (fun p => p.count.min)
     (fun x p => { p with count := { p.count with min := x } }) fun _ _ => rfl,
   .of "max" .omittable nofun (decides_option decides_size) (fun p => p.count.max)
     (fun x p => { p with count := { p.count with max := x } }) fun _ _ => rfl,
   .of "patterns" .defaulted nofun (decides_list decides_text) ParagraphEntry.patterns
     (fun x p => { p with patterns := x }) fun _ _ => rfl]

theorem covers_paragraphs : Covers paragraphAspects where
  names := by simp [paragraphAspects, Aspect.name, Aspect.of, Field.of]
  apart := by simp [paragraphAspects, Aspect.name, Aspect.of, Field.of]
  ext := by
    rintro ⟨⟨_, _⟩, _⟩ ⟨⟨_, _⟩, _⟩ h
    simpa [paragraphAspects, Aspect.of, and_assoc] using h

/-- What is read of a rule for paragraphs. -/
def ReadsParagraphs (v : Json) (p : ParagraphEntry) : Prop :=
  ∃ members, Spelled paragraphShape v members ∧
    Optional IsSize (Fields.get? "min" members) p.count.min ∧
    Optional IsSize (Fields.get? "max" members) p.count.max ∧
    Defaulted [] (EachOf IsText) (Fields.get? "patterns" members) p.patterns

theorem decides_paragraphs : Decides readParagraphs ReadsParagraphs :=
  (Layout.decides covers_paragraphs rfl rfl {}).congr fun v p => by
    simp only [paragraphAspects, bears_cons, bears_nil, and_true]
    exact Iff.rfl

def slotAspects : List (Aspect SlotEntry) :=
  [.of "paragraphs" .omittable nofun (decides_option decides_paragraphs) SlotEntry.paragraphs
     (fun x s => { s with paragraphs := x }) fun _ _ => rfl,
   .of "code_blocks" .omittable nofun (decides_option decides_bounds) SlotEntry.codeBlocks
     (fun x s => { s with codeBlocks := x }) fun _ _ => rfl,
   .of "lists" .omittable nofun (decides_option decides_lists) SlotEntry.lists
     (fun x s => { s with lists := x }) fun _ _ => rfl]

theorem covers_slot : Covers slotAspects where
  names := by simp [slotAspects, Aspect.name, Aspect.of, Field.of]
  apart := by simp [slotAspects, Aspect.name, Aspect.of, Field.of]
  ext := by
    rintro ⟨_, _, _⟩ ⟨_, _, _⟩ h
    simpa [slotAspects, Aspect.of] using h

/-- What is read of the rules for the three kinds of content. -/
structure ReadsContent (members : List (String × Json)) (paragraphs : Option ParagraphEntry)
    (codeBlocks : Option Bounds) (lists : Option ListRule) : Prop where
  paragraphs : Optional ReadsParagraphs (Fields.get? "paragraphs" members) paragraphs
  codeBlocks : Optional DescribesBounds (Fields.get? "code_blocks" members) codeBlocks
  lists : Optional DescribesLists (Fields.get? "lists" members) lists

/-- What is read of an item of a sequence. -/
def ReadsSlot (v : Json) (s : SlotEntry) : Prop :=
  ∃ members, Spelled slotShape v members ∧ ReadsContent members s.paragraphs s.codeBlocks s.lists

theorem decides_slot : Decides (slotLayout.read .value {}) ReadsSlot :=
  (Layout.decides covers_slot rfl rfl {}).congr fun v s => by
    simp only [slotAspects, bears_cons, bears_nil, and_true]
    exact exists_congr fun members => and_congr_right fun _ =>
      ⟨fun ⟨hp, hb, hl⟩ => ⟨hp, hb, hl⟩, fun ⟨hp, hb, hl⟩ => ⟨hp, hb, hl⟩⟩

def sectionAspects : List (Aspect SectionEntry) :=
  [.of "description" .omittable nofun (decides_option decides_text) SectionEntry.description
     (fun x s => { s with description := x }) fun _ _ => rfl,
   .of "heading" .omittable nofun (decides_option decides_heading) SectionEntry.heading
     (fun x s => { s with heading := x }) fun _ _ => rfl,
   .of "required" .defaulted nofun decides_bool SectionEntry.required
     (fun x s => { s with required := x }) fun _ _ => rfl,
   .of "paragraphs" .omittable nofun (decides_option decides_paragraphs) SectionEntry.paragraphs
     (fun x s => { s with paragraphs := x }) fun _ _ => rfl,
   .of "code_blocks" .omittable nofun (decides_option decides_bounds) SectionEntry.codeBlocks
     (fun x s => { s with codeBlocks := x }) fun _ _ => rfl,
   .of "lists" .omittable nofun (decides_option decides_lists) SectionEntry.lists
     (fun x s => { s with lists := x }) fun _ _ => rfl,
   .of "sequence" .omittable nofun (decides_option (decides_list decides_slot))
     SectionEntry.sequence (fun x s => { s with sequence := x }) fun _ _ => rfl,
   .of "instructions" .omittable nofun (decides_option (decides_list decides_text))
     SectionEntry.instructions (fun x s => { s with instructions := x }) fun _ _ => rfl,
   .of "additionalSections" .defaulted nofun decides_bool SectionEntry.additionalSections
     (fun x s => { s with additionalSections := x }) fun _ _ => rfl,
   .ignored tableKey .omittable nofun accepts_optionMap]

theorem covers_section : Covers sectionAspects where
  names := by simp [sectionAspects, Aspect.name, Aspect.of, Aspect.ignored, Field.of, tableKey]
  apart := by simp [sectionAspects, Aspect.name, Aspect.of, Aspect.ignored, Field.of, tableKey]
  ext := by
    rintro ⟨_, _, _, _, _, _, _, _, _⟩ ⟨_, _, _, _, _, _, _, _, _⟩ h
    simpa [sectionAspects, Aspect.of, Aspect.ignored] using h

/-- What is read of the members of a rule for a section. Of the table only its shape is
    looked at. -/
structure ReadsFields (members : List (String × Json)) (e : SectionEntry) : Prop where
  description : Optional IsText (Fields.get? "description" members) e.description
  heading : Optional ReadsHeading (Fields.get? "heading" members) e.heading
  required : Defaulted true IsBool (Fields.get? "required" members) e.required
  content : ReadsContent members e.paragraphs e.codeBlocks e.lists
  sequence : Optional (EachOf ReadsSlot) (Fields.get? "sequence" members) e.sequence
  instructions : Optional (EachOf IsText) (Fields.get? "instructions" members) e.instructions
  additionalSections :
    Defaulted false IsBool (Fields.get? "additionalSections" members) e.additionalSections
  table : Permits IsMapOrNull (Fields.get? tableKey members)

theorem permits_iff_defaulted {fits : Json → Prop} {found : Option Json} :
    Permits fits found ↔ Defaulted () (fun v _ => fits v) found () := by
  cases found with
  | none => simp [Permits, defaulted_none_iff]
  | some v => simp [Permits, defaulted_some_iff]

theorem decides_section :
    Decides (sectionLayout.read .value {}) fun v e =>
      ∃ members, Spelled sectionShape v members ∧ ReadsFields members e :=
  (Layout.decides covers_section rfl rfl {}).congr fun v e => by
    refine exists_congr fun members => and_congr_right fun _ => ?_
    simp only [sectionAspects, bears_cons, bears_nil, and_true]
    constructor
    · rintro ⟨hdescription, hheading, hrequired, hp, hb, hl, hsequence, hinstructions,
        hadditional, htable⟩
      exact ⟨hdescription, hheading, hrequired, ⟨hp, hb, hl⟩, hsequence, hinstructions,
        hadditional, permits_iff_defaulted.2 htable⟩
    · rintro ⟨hdescription, hheading, hrequired, ⟨hp, hb, hl⟩, hsequence, hinstructions,
        hadditional, htable⟩
      exact ⟨hdescription, hheading, hrequired, hp, hb, hl, hsequence, hinstructions,
        hadditional, permits_iff_defaulted.1 htable⟩

def templateAspects : List (Aspect (Option String)) :=
  [.of "description" .omittable nofun (decides_option decides_text) id
     (fun x _ => x) fun _ _ => rfl,
   .ignored tableKey .omittable nofun accepts_optionMap]

theorem covers_template : Covers templateAspects where
  names := by simp [templateAspects, Aspect.name, Aspect.of, Aspect.ignored, Field.of, tableKey]
  apart := by simp [templateAspects, Aspect.name, Aspect.of, Aspect.ignored, Field.of, tableKey]
  ext := by
    intro s t h
    simpa [templateAspects, Aspect.of, Aspect.ignored] using h

theorem decides_template :
    Decides (templateLayout.read .value none) fun v d =>
      ∃ members, Spelled templateShape v members ∧
        Optional IsText (Fields.get? "description" members) d ∧
        Permits IsMapOrNull (Fields.get? tableKey members) :=
  (Layout.decides covers_template rfl rfl none).congr fun v d => by
    refine exists_congr fun members => and_congr_right fun _ => ?_
    simp only [templateAspects, bears_cons, bears_nil, and_true]
    exact and_congr_right fun _ => permits_iff_defaulted.symm

/-! ## From entries to rules -/

section
variable (regex : Regex.Compiler)

/-- A pattern has a text. -/
def Compiles (text : String) (pattern : Pattern) : Prop :=
  regex text = some pattern

/-- A rule for paragraphs is made from its entry by compiling the patterns. -/
def ParagraphEntry.Makes (e : ParagraphEntry) (p : ParagraphRule) : Prop :=
  p.count = e.count ∧ List.Forall₂ (Compiles regex) e.patterns p.patterns

/-- A rule for a heading is made from its entry by compiling the pattern. -/
def HeadingEntry.Makes (e : HeadingEntry) (h : HeadingRule) : Prop :=
  h.constant = e.constant ∧ Option.Rel (Compiles regex) e.pattern h.pattern

/-- A slot is made from the one rule of its entry. -/
def SlotEntry.Makes (e : SlotEntry) : Slot → Prop
  | .paragraphs p =>
    (∃ q, e.paragraphs = some q ∧ q.Makes regex p) ∧ e.codeBlocks = none ∧ e.lists = none
  | .codeBlocks b => e.paragraphs = none ∧ e.codeBlocks = some b ∧ e.lists = none
  | .lists l => e.paragraphs = none ∧ e.codeBlocks = none ∧ e.lists = some l

/-- A sequence is made from its entries, of which there is at least one. -/
def MakesSequence (entries : List SlotEntry) (slots : List Slot) : Prop :=
  entries ≠ [] ∧ List.Forall₂ (SlotEntry.Makes regex) entries slots

/-- A rule is made from its entry, apart from its table. -/
structure SectionEntry.Makes (e : SectionEntry) (r : Rule) : Prop where
  description : r.description = e.description
  heading : Option.Rel (HeadingEntry.Makes regex) e.heading r.heading
  required : r.required = e.required
  paragraphs : Option.Rel (ParagraphEntry.Makes regex) e.paragraphs r.paragraphs
  codeBlocks : r.codeBlocks = e.codeBlocks
  lists : r.lists = e.lists
  sequence : Option.Rel (MakesSequence regex) e.sequence r.sequence
  instructions : r.instructions = e.instructions.getD []
  additionalSections : r.additionalSections = e.additionalSections
  exclusive : e.overlaps = false

end

variable {regex : Regex.Compiler}

theorem SectionEntry.Makes.withSections {e : SectionEntry} {r : Rule} (h : e.Makes regex r)
    (table : Option (List (String × Rule))) : e.Makes regex { r with sections := table } :=
  ⟨h.description, h.heading, h.required, h.paragraphs, h.codeBlocks, h.lists, h.sequence,
    h.instructions, h.additionalSections, h.exclusive⟩

theorem compile_eq_ok_iff {path text : String} {pattern : Pattern} :
    compile regex path text = .ok pattern ↔ Compiles regex text pattern := by
  rw [compile, Compiles]
  cases regex text <;> simp

theorem compileAll_eq_ok_iff {path : String} {index : Nat} {texts : List String}
    {patterns : List Pattern} :
    compileAll regex path index texts = .ok patterns ↔
      List.Forall₂ (Compiles regex) texts patterns := by
  induction texts generalizing index patterns with
  | nil => cases patterns <;> simp [compileAll]
  | cons text rest ih =>
    rw [compileAll, List.forall₂_cons_left_iff]
    -- What is accepted does not depend on the path, so each part is taken at its own.
    simp only [← @compile_eq_ok_iff regex s!"{path}.patterns[{index}]", ← @ih (index + 1)]
    cases compile regex s!"{path}.patterns[{index}]" text with
    | error e => simp
    | ok pattern => cases compileAll regex path (index + 1) rest <;> simp [eq_comm]

theorem ParagraphEntry.toRule_eq_ok_iff {path : String} {e : ParagraphEntry} {p : ParagraphRule} :
    e.toRule regex path = .ok p ↔ e.Makes regex p := by
  rw [ParagraphEntry.toRule, ParagraphEntry.Makes, ← @compileAll_eq_ok_iff regex path 0]
  obtain ⟨count, patterns⟩ := p
  cases compileAll regex path 0 e.patterns <;> simp [eq_comm]

theorem HeadingEntry.toRule_eq_ok_iff {path : String} {e : HeadingEntry} {h : HeadingRule} :
    e.toRule regex path = .ok h ↔ e.Makes regex h := by
  obtain ⟨constant, pattern⟩ := e
  obtain ⟨constant', pattern'⟩ := h
  cases pattern with
  | none =>
    cases pattern' <;> simp [HeadingEntry.toRule, HeadingEntry.Makes, eq_comm]
  | some text =>
    cases pattern' with
    | none =>
      simp only [HeadingEntry.toRule, HeadingEntry.Makes, Option.not_rel_some_none, and_false,
        iff_false]
      cases compile regex s!"{path}.heading.pattern" text <;> simp
    | some p =>
      simp only [HeadingEntry.toRule, HeadingEntry.Makes, Option.rel_some_some]
      rw [← @compile_eq_ok_iff regex s!"{path}.heading.pattern"]
      cases compile regex s!"{path}.heading.pattern" text <;> simp [eq_comm]

theorem SlotEntry.toSlot_eq_ok_iff {path : String} {e : SlotEntry} {slot : Slot} :
    e.toSlot regex path = .ok slot ↔ e.Makes regex slot := by
  obtain ⟨paragraphs, codeBlocks, lists⟩ := e
  rcases paragraphs with _ | q <;> rcases codeBlocks with _ | b <;> rcases lists with _ | l
  -- Only a rule for paragraphs can still fail, in its patterns.
  case some.none.none =>
    cases slot with
    | paragraphs p =>
      simp only [SlotEntry.toSlot, SlotEntry.Makes, Option.some.injEq, exists_eq_left', and_true,
        ← @ParagraphEntry.toRule_eq_ok_iff regex s!"{path}.paragraphs"]
      cases q.toRule regex s!"{path}.paragraphs" <;> simp
    | _ =>
      simp only [SlotEntry.toSlot, SlotEntry.Makes, reduceCtorEq, false_and, and_false, iff_false]
      cases q.toRule regex s!"{path}.paragraphs" <;> simp
  all_goals cases slot <;> simp [SlotEntry.toSlot, SlotEntry.Makes, eq_comm]

theorem toSlots_eq_ok_iff {path : String} {index : Nat} {entries : List SlotEntry}
    {slots : List Slot} :
    toSlots regex path index entries = .ok slots ↔
      List.Forall₂ (SlotEntry.Makes regex) entries slots := by
  induction entries generalizing index slots with
  | nil => cases slots <;> simp [toSlots]
  | cons e rest ih =>
    rw [toSlots, List.forall₂_cons_left_iff]
    simp only [← @SlotEntry.toSlot_eq_ok_iff regex s!"{path}.sequence[{index}]", ← @ih (index + 1)]
    cases e.toSlot regex s!"{path}.sequence[{index}]" with
    | error e => simp
    | ok slot => cases toSlots regex path (index + 1) rest <;> simp [eq_comm]

theorem toSequence_eq_ok_iff {path : String} {entries : List SlotEntry} {slots : List Slot} :
    toSequence regex path entries = .ok slots ↔ MakesSequence regex entries slots := by
  rw [toSequence, MakesSequence]
  split
  · next hempty => simp [List.isEmpty_iff.1 hempty]
  · next hne => rw [toSlots_eq_ok_iff, and_iff_right (mt List.isEmpty_iff.2 hne)]

theorem checkOption_eq_ok_iff {α β : Type} {check : α → Except Failure β} {makes : α → β → Prop}
    (h : ∀ x y, check x = .ok y ↔ makes x y) {x : Option α} {y : Option β} :
    checkOption check x = .ok y ↔ Option.Rel makes x y := by
  cases x with
  | none => cases y <;> simp [checkOption]
  | some x =>
    cases y with
    | none =>
      rw [checkOption]
      cases check x <;> simp
    | some y =>
      rw [checkOption, Option.rel_some_some, ← h]
      cases check x <;> simp

theorem SectionEntry.toRule_eq_ok_iff {path : String} {e : SectionEntry} {r : Rule} :
    e.toRule regex path = .ok r ↔ e.Makes regex r ∧ r.sections = none := by
  have hheading : ∀ y, checkOption (HeadingEntry.toRule regex path) e.heading = .ok y ↔
      Option.Rel (HeadingEntry.Makes regex) e.heading y :=
    fun _ => checkOption_eq_ok_iff fun _ _ => HeadingEntry.toRule_eq_ok_iff
  have hparagraphs : ∀ y,
      checkOption (ParagraphEntry.toRule regex s!"{path}.paragraphs") e.paragraphs = .ok y ↔
        Option.Rel (ParagraphEntry.Makes regex) e.paragraphs y :=
    fun _ => checkOption_eq_ok_iff fun _ _ => ParagraphEntry.toRule_eq_ok_iff
  have hsequence : ∀ y, checkOption (toSequence regex path) e.sequence = .ok y ↔
      Option.Rel (MakesSequence regex) e.sequence y :=
    fun _ => checkOption_eq_ok_iff fun _ _ => toSequence_eq_ok_iff
  -- Overlaps are refused before any pattern is compiled.
  rw [SectionEntry.toRule]
  split
  · next hoverlaps => exact ⟨nofun, fun ⟨h, _⟩ => absurd hoverlaps (by simp [h.exclusive])⟩
  · next hoverlaps =>
    constructor
    · intro h
      split at h
      · cases h
      next heading hh =>
      split at h
      · cases h
      next paragraphs hp =>
      split at h
      · cases h
      next slots hs =>
      obtain rfl := Except.ok.inj h
      exact ⟨⟨rfl, (hheading _).1 hh, rfl, (hparagraphs _).1 hp, rfl, rfl, (hsequence _).1 hs, rfl,
        rfl, by simpa using hoverlaps⟩, rfl⟩
    · rintro ⟨h, hsections⟩
      rw [(hheading _).2 h.heading, (hparagraphs _).2 h.paragraphs, (hsequence _).2 h.sequence]
      obtain ⟨_, _, _, _, _, _, _, _, _, _⟩ := r
      simpa [← h.description, ← h.required, ← h.codeBlocks, ← h.lists, ← h.instructions,
        ← h.additionalSections] using hsections.symm

/-! ## Both layers in a row -/

section Through

variable {α β : Type} {means : Json → α → Prop} {makes : α → β → Prop}

/-- What a value means through something that is made from it. -/
def Through (means : Json → α → Prop) (makes : α → β → Prop) (v : Json) (y : β) : Prop :=
  ∃ x, means v x ∧ makes x y

theorem orNull_through {v : Json} {y : Option β} :
    OrNull (Through means makes) v y ↔ ∃ x, OrNull means v x ∧ Option.Rel makes x y := by
  constructor
  · intro h
    cases h with
    | null => exact ⟨none, .null, .none⟩
    | given hv h =>
      obtain ⟨x, hx, hy⟩ := h
      exact ⟨some x, .given hv hx, .some hy⟩
  · rintro ⟨x, hx, hy⟩
    cases hx with
    | null =>
      cases hy
      exact .null
    | given hv hx =>
      cases hy with
      | some hy => exact .given hv ⟨_, hx, hy⟩

theorem optional_through {found : Option Json} {y : Option β} :
    Optional (Through means makes) found y ↔
      ∃ x, Optional means found x ∧ Option.Rel makes x y := by
  cases found with
  | none =>
    simp only [Optional, defaulted_none_iff, exists_eq_left]
    cases y <;> simp
  | some v => simp only [Optional, defaulted_some_iff, orNull_through]

theorem forall₂_through {items : List Json} {ys : List β} :
    List.Forall₂ (Through means makes) items ys ↔
      ∃ xs, List.Forall₂ means items xs ∧ List.Forall₂ makes xs ys := by
  induction items generalizing ys with
  | nil => simp
  | cons v rest ih =>
    simp only [List.forall₂_cons_left_iff, ih, Through]
    constructor
    · rintro ⟨y, ys, ⟨x, hx, hy⟩, ⟨xs, hxs, hys⟩, rfl⟩
      exact ⟨x :: xs, ⟨x, xs, hx, hxs, rfl⟩, .cons hy hys⟩
    · rintro ⟨_, ⟨x, xs, hx, hxs, rfl⟩, hall⟩
      obtain ⟨y, ys, hy, hys, rfl⟩ := List.forall₂_cons_left_iff.1 hall
      exact ⟨y, ys, ⟨x, hx, hy⟩, ⟨xs, hxs, hys⟩, rfl⟩

theorem eachOf_through {v : Json} {ys : List β} :
    EachOf (Through means makes) v ys ↔
      ∃ xs, EachOf means v xs ∧ List.Forall₂ makes xs ys := by
  simp only [EachOf, forall₂_through]
  constructor
  · rintro ⟨items, hv, xs, hxs, hys⟩
    exact ⟨xs, ⟨items, hv, hxs⟩, hys⟩
  · rintro ⟨xs, ⟨items, hv, hxs⟩, hys⟩
    exact ⟨items, hv, xs, hxs, hys⟩

/-- A value that has to be made from one that is not there is not there either. -/
theorem isSome_eq_of_rel {x : Option α} {y : Option β} (h : Option.Rel makes x y) :
    x.isSome = y.isSome := by
  cases h <;> rfl

end Through

theorem isPattern_eq_through : IsPattern regex = Through IsText (Compiles regex) := rfl

theorem describesHeading_eq_through :
    DescribesHeading regex = Through ReadsHeading (HeadingEntry.Makes regex) := by
  funext v h
  simp only [DescribesHeading, isPattern_eq_through, optional_through, eq_iff_iff]
  constructor
  · rintro ⟨members, hspelled, hconstant, text, htext, hcompiles⟩
    exact ⟨⟨h.constant, text⟩, ⟨members, hspelled, hconstant, htext⟩, rfl, hcompiles⟩
  · rintro ⟨e, ⟨members, hspelled, hconstant, htext⟩, heq, hcompiles⟩
    exact ⟨members, hspelled, heq ▸ hconstant, e.pattern, htext, hcompiles⟩

theorem defaulted_patterns_iff {found : Option Json} {patterns : List Pattern} :
    Defaulted [] (EachOf (IsPattern regex)) found patterns ↔
      ∃ texts, Defaulted [] (EachOf IsText) found texts ∧
        List.Forall₂ (Compiles regex) texts patterns := by
  cases found with
  | none => simp [defaulted_none_iff]
  | some v => simp only [defaulted_some_iff, isPattern_eq_through, eachOf_through]

theorem describesParagraphs_eq_through :
    DescribesParagraphs regex = Through ReadsParagraphs (ParagraphEntry.Makes regex) := by
  funext v p
  simp only [DescribesParagraphs, defaulted_patterns_iff, eq_iff_iff]
  constructor
  · rintro ⟨members, hspelled, hmin, hmax, texts, htexts, hcompile⟩
    exact ⟨⟨p.count, texts⟩, ⟨members, hspelled, hmin, hmax, htexts⟩, rfl, hcompile⟩
  · rintro ⟨e, ⟨members, hspelled, hmin, hmax, htexts⟩, hcount, hcompile⟩
    exact ⟨members, hspelled, hcount ▸ hmin, hcount ▸ hmax, e.patterns, htexts, hcompile⟩

theorem describesContent_iff {members : List (String × Json)} {p : Option ParagraphRule}
    {b : Option Bounds} {l : Option ListRule} :
    DescribesContent regex members p b l ↔
      ∃ q, ReadsContent members q b l ∧ Option.Rel (ParagraphEntry.Makes regex) q p := by
  constructor
  · rintro ⟨hp, hb, hl⟩
    rw [describesParagraphs_eq_through, optional_through] at hp
    obtain ⟨q, hq, hmakes⟩ := hp
    exact ⟨q, ⟨hq, hb, hl⟩, hmakes⟩
  · rintro ⟨q, ⟨hq, hb, hl⟩, hmakes⟩
    refine ⟨?_, hb, hl⟩
    rw [describesParagraphs_eq_through, optional_through]
    exact ⟨q, hq, hmakes⟩

theorem describesSlot_eq_through :
    DescribesSlot regex = Through ReadsSlot (SlotEntry.Makes regex) := by
  funext v slot
  rw [eq_iff_iff]
  constructor
  · rintro ⟨members, hspelled, hslot⟩
    cases slot with
    | paragraphs p =>
      obtain ⟨_, hcontent, hmakes⟩ := describesContent_iff.1 hslot
      cases hmakes with
      | some hmakes =>
        exact ⟨⟨_, none, none⟩, ⟨members, hspelled, hcontent⟩, ⟨_, rfl, hmakes⟩, rfl, rfl⟩
    | codeBlocks b =>
      obtain ⟨_, hcontent, hmakes⟩ := describesContent_iff.1 hslot
      cases hmakes
      exact ⟨⟨none, some b, none⟩, ⟨members, hspelled, hcontent⟩, rfl, rfl, rfl⟩
    | lists l =>
      obtain ⟨_, hcontent, hmakes⟩ := describesContent_iff.1 hslot
      cases hmakes
      exact ⟨⟨none, none, some l⟩, ⟨members, hspelled, hcontent⟩, rfl, rfl, rfl⟩
  · rintro ⟨⟨paragraphs, codeBlocks, lists⟩, ⟨members, hspelled, hcontent⟩, hmakes⟩
    refine ⟨members, hspelled, ?_⟩
    cases slot with
    | paragraphs p =>
      obtain ⟨⟨q, rfl, hmakes⟩, rfl, rfl⟩ := hmakes
      exact describesContent_iff.2 ⟨_, hcontent, .some hmakes⟩
    | codeBlocks b =>
      obtain ⟨rfl, rfl, rfl⟩ := hmakes
      exact describesContent_iff.2 ⟨_, hcontent, .none⟩
    | lists l =>
      obtain ⟨rfl, rfl, rfl⟩ := hmakes
      exact describesContent_iff.2 ⟨_, hcontent, .none⟩

theorem describesSequence_eq_through :
    DescribesSequence regex = Through (EachOf ReadsSlot) (MakesSequence regex) := by
  funext v slots
  rw [DescribesSequence, describesSlot_eq_through, eachOf_through, eq_iff_iff]
  have hempty : ∀ {entries}, List.Forall₂ (SlotEntry.Makes regex) entries slots →
      (slots ≠ [] ↔ entries ≠ []) := fun h => by
    cases h <;> simp
  constructor
  · rintro ⟨hne, entries, hentries, hmakes⟩
    exact ⟨entries, hentries, (hempty hmakes).1 hne, hmakes⟩
  · rintro ⟨entries, hentries, hne, hmakes⟩
    exact ⟨(hempty hmakes).2 hne, entries, hentries, hmakes⟩

/-- An entry has no sequence beside a rule for content exactly if the rule that is made
    from it has none. -/
theorem overlaps_eq_false_iff {e : SectionEntry} {r : Rule}
    (hsequence : Option.Rel (MakesSequence regex) e.sequence r.sequence)
    (hparagraphs : Option.Rel (ParagraphEntry.Makes regex) e.paragraphs r.paragraphs)
    (hcodeBlocks : r.codeBlocks = e.codeBlocks) (hlists : r.lists = e.lists) :
    e.overlaps = false ↔
      (r.sequence.isSome → r.paragraphs = none ∧ r.codeBlocks = none ∧ r.lists = none) := by
  rw [SectionEntry.overlaps, isSome_eq_of_rel hsequence, isSome_eq_of_rel hparagraphs,
    ← hcodeBlocks, ← hlists]
  cases r.sequence <;> cases r.paragraphs <;> cases r.codeBlocks <;> cases r.lists <;> simp

theorem describesFields_iff {members : List (String × Json)} {r : Rule} :
    (DescribesFields regex members r ∧ Permits IsMapOrNull (Fields.get? tableKey members)) ↔
      ∃ e, ReadsFields members e ∧ e.Makes regex r := by
  constructor
  · rintro ⟨h, htable⟩
    have hheading := h.heading
    have hsequence := h.sequence
    rw [describesHeading_eq_through, optional_through] at hheading
    rw [describesSequence_eq_through, optional_through] at hsequence
    obtain ⟨heading, hheading, hmakesHeading⟩ := hheading
    obtain ⟨paragraphs, hcontent, hmakesParagraphs⟩ := describesContent_iff.1 h.content
    obtain ⟨entries, hentries, hmakesSequence⟩ := hsequence
    obtain ⟨texts, htexts, hinstructions⟩ := h.instructions
    refine ⟨⟨r.description, heading, r.required, paragraphs, r.codeBlocks, r.lists, entries, texts,
      r.additionalSections⟩, ⟨h.description, hheading, h.required, hcontent, hentries, htexts,
      h.additionalSections, htable⟩, rfl, hmakesHeading, rfl, hmakesParagraphs, rfl, rfl,
      hmakesSequence, hinstructions, rfl, ?_⟩
    exact (overlaps_eq_false_iff hmakesSequence hmakesParagraphs rfl rfl).2 h.exclusive
  · rintro ⟨e, h, hmakes⟩
    refine ⟨⟨hmakes.description ▸ h.description, ?_, hmakes.required ▸ h.required, ?_, ?_,
      ⟨_, h.instructions, hmakes.instructions⟩, hmakes.additionalSections ▸ h.additionalSections,
      ?_⟩, h.table⟩
    · rw [describesHeading_eq_through, optional_through]
      exact ⟨_, h.heading, hmakes.heading⟩
    · rw [hmakes.codeBlocks, hmakes.lists]
      exact describesContent_iff.2 ⟨_, h.content, hmakes.paragraphs⟩
    · rw [describesSequence_eq_through, optional_through]
      exact ⟨_, h.sequence, hmakes.sequence⟩
    · exact (overlaps_eq_false_iff hmakes.sequence hmakes.paragraphs hmakes.codeBlocks
        hmakes.lists).1 hmakes.exclusive

end Rubric.Schema
