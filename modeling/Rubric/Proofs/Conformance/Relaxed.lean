/-
  Rubric.Proofs.Conformance.Relaxed

  Weaker templates accept more.

  A relaxation changes one thing about a rule, at any depth, so that it asks for
  less: a bound moves outwards or goes, a part goes, a section need not be there,
  or more sections may be. What a relaxation can do to the content, to the
  instructions and to the table is said once for each of the three. A section that
  conforms to a rule then conforms to every relaxation of it, and a document that
  a template finds nothing wrong with passes every weaker template.

  The pairing of sections with rules does not change on the way: no relaxation adds
  or removes an entry of a table, so sections that were paired by position still
  are, and those that were tried still are.
-/
import Mathlib.Logic.Relation
import Rubric.Proofs.Conformance.Conforms

namespace Rubric

/-! ## Relaxations -/

/-- A part that may be absent goes, or it stays and is relaxed. -/
inductive RelaxesPart {α : Type} (relaxes : α → α → Prop) : Option α → Option α → Prop
  | drop (part : Option α) : RelaxesPart relaxes part none
  | change {part part' : α} : relaxes part part' → RelaxesPart relaxes (some part) (some part')

/-- One item of a list is relaxed. -/
inductive RelaxesItem {α : Type} (relaxes : α → α → Prop) : List α → List α → Prop
  | change (before after : List α) {item item' : α} : relaxes item item' →
      RelaxesItem relaxes (before ++ item :: after) (before ++ item' :: after)

/-- The lower bound gets lower or goes, or the upper bound gets higher or goes. -/
inductive Bounds.Relaxes : Bounds → Bounds → Prop
  | min (bounds : Bounds) {min' : Option Nat} :
      RelaxesPart (fun least least' => least' ≤ least) bounds.min min' →
      Relaxes bounds { bounds with min := min' }
  | max (bounds : Bounds) {max' : Option Nat} :
      RelaxesPart (fun most most' => most ≤ most') bounds.max max' →
      Relaxes bounds { bounds with max := max' }

/-- The bounds are relaxed, or all patterns go. -/
inductive ParagraphRule.Relaxes : ParagraphRule → ParagraphRule → Prop
  | count (rule : ParagraphRule) {count' : Bounds} : rule.count.Relaxes count' →
      Relaxes rule { rule with count := count' }
  | dropPatterns (rule : ParagraphRule) : Relaxes rule { rule with patterns := [] }

/-- The bounds on the number of lists or those on the numbers of items are relaxed. -/
inductive ListRule.Relaxes : ListRule → ListRule → Prop
  | count (rule : ListRule) {count' : Bounds} : rule.count.Relaxes count' →
      Relaxes rule { rule with count := count' }
  | items (rule : ListRule) {items' : Option Bounds} :
      RelaxesPart Bounds.Relaxes rule.items items' →
      Relaxes rule { rule with items := items' }

/-- The constant text or the pattern goes. -/
inductive HeadingRule.Relaxes : HeadingRule → HeadingRule → Prop
  | dropConstant (rule : HeadingRule) : Relaxes rule { rule with constant := none }
  | dropPattern (rule : HeadingRule) : Relaxes rule { rule with pattern := none }

/-- The rule of the slot is relaxed. -/
inductive Slot.Relaxes : Slot → Slot → Prop
  | paragraphs {rule rule' : ParagraphRule} : rule.Relaxes rule' →
      Relaxes (.paragraphs rule) (.paragraphs rule')
  | codeBlocks {bounds bounds' : Bounds} : bounds.Relaxes bounds' →
      Relaxes (.codeBlocks bounds) (.codeBlocks bounds')
  | lists {rule rule' : ListRule} : rule.Relaxes rule' →
      Relaxes (.lists rule) (.lists rule')

/-- One thing about a rule, or about a rule below it, is relaxed. -/
inductive Rule.Relaxes : Rule → Rule → Prop
  | heading (r : Rule) {heading' : Option HeadingRule} :
      RelaxesPart HeadingRule.Relaxes r.heading heading' →
      Relaxes r { r with heading := heading' }
  | paragraphs (r : Rule) {paragraphs' : Option ParagraphRule} :
      RelaxesPart ParagraphRule.Relaxes r.paragraphs paragraphs' →
      Relaxes r { r with paragraphs := paragraphs' }
  | codeBlocks (r : Rule) {codeBlocks' : Option Bounds} :
      RelaxesPart Bounds.Relaxes r.codeBlocks codeBlocks' →
      Relaxes r { r with codeBlocks := codeBlocks' }
  | lists (r : Rule) {lists' : Option ListRule} :
      RelaxesPart ListRule.Relaxes r.lists lists' →
      Relaxes r { r with lists := lists' }
  | sequence (r : Rule) {sequence' : Option (List Slot)} :
      RelaxesPart (RelaxesItem Slot.Relaxes) r.sequence sequence' →
      Relaxes r { r with sequence := sequence' }
  | dropInstruction (r : Rule) {before after : List String} {text : String} :
      r.instructions = before ++ text :: after →
      Relaxes r { r with instructions := before ++ after }
  | makeOptional (r : Rule) : Relaxes r { r with required := false }
  | allowMore (r : Rule) : Relaxes r { r with additionalSections := true }
  | dropTable (r : Rule) : Relaxes r { r with sections := none }
  | entry (r : Rule) {before after : List (String × Rule)} {name : String}
      {below below' : Rule} :
      r.sections = some (before ++ (name, below) :: after) → Relaxes below below' →
      Relaxes r { r with sections := some (before ++ (name, below') :: after) }

/-- One rule of the table of a template is relaxed, or the template loses its table. -/
inductive TableRelaxes : List (String × Rule) → List (String × Rule) → Prop
  | entry (before after : List (String × Rule)) (name : String) {rule rule' : Rule} :
      rule.Relaxes rule' →
      TableRelaxes (before ++ (name, rule) :: after) (before ++ (name, rule') :: after)
  | drop (table : List (String × Rule)) : TableRelaxes table []

/-! ## What content they admit -/

/-- What all relaxations of a part allow, a part allows that is relaxed or gone. -/
theorem RelaxesPart.allows {α : Type} {relaxes : α → α → Prop} (allows : α → Prop)
    (hmono : ∀ {part part'}, relaxes part part' → allows part → allows part')
    {part part' : Option α} (h : RelaxesPart relaxes part part')
    (hallows : ∀ x, part = some x → allows x) (x : α) (hx : part' = some x) : allows x := by
  cases h with
  | drop => simp at hx
  | change hrelaxes =>
    obtain rfl := Option.some.inj hx
    exact hmono hrelaxes (hallows _ rfl)

theorem Bounds.Relaxes.admits {bounds bounds' : Bounds} (h : bounds.Relaxes bounds') {n : Nat}
    (hn : bounds.admits n) : bounds'.admits n := by
  rw [Bounds.admits_iff] at hn ⊢
  cases h with
  | min hmin =>
    exact ⟨hmin.allows (· ≤ n) (fun hle hleast => Nat.le_trans hle hleast) hn.1, hn.2⟩
  | max hmax =>
    exact ⟨hn.1, hmax.allows (n ≤ ·) (fun hle hmost => Nat.le_trans hmost hle) hn.2⟩

theorem ParagraphRule.Relaxes.admits {rule rule' : ParagraphRule} (h : rule.Relaxes rule')
    {paragraphs : List Paragraph} (hp : rule.Admits paragraphs) : rule'.Admits paragraphs := by
  cases h with
  | count hcount => exact ⟨hcount.admits hp.1, hp.2⟩
  | dropPatterns => exact ⟨hp.1, fun i p pattern _ hpattern => by simp at hpattern⟩

theorem ListRule.Relaxes.admits {rule rule' : ListRule} (h : rule.Relaxes rule')
    {lists : List Listing} (hl : rule.Admits lists) : rule'.Admits lists := by
  cases h with
  | count hcount => exact ⟨hcount.admits hl.1, hl.2⟩
  | items hitems =>
    refine ⟨hl.1, hitems.allows (fun bounds => ∀ l ∈ lists, bounds.admits l.items.length) ?_ hl.2⟩
    exact fun hbounds hall l hmem => hbounds.admits (hall l hmem)

theorem HeadingRule.Relaxes.admits {rule rule' : HeadingRule} (h : rule.Relaxes rule')
    {heading : Heading} (hh : rule.Admits heading) : rule'.Admits heading := by
  cases h with
  | dropConstant => exact ⟨fun text htext => by simp at htext, hh.2⟩
  | dropPattern => exact ⟨hh.1, fun pattern hpattern => by simp at hpattern⟩

theorem Slot.Relaxes.admits {slot slot' : Slot} (h : slot.Relaxes slot') {run : ContentRun}
    (hrun : slot.Admits run) : slot'.Admits run := by
  -- A relaxed slot still looks at the same payload.
  obtain ⟨hkind, hpayload⟩ := hrun
  cases h with
  | paragraphs hrule =>
    obtain ⟨items, hitems, hadmits⟩ := hpayload
    exact ⟨hkind, items, hitems, hrule.admits hadmits⟩
  | codeBlocks hbounds =>
    obtain ⟨items, hitems, hadmits⟩ := hpayload
    exact ⟨hkind, items, hitems, hbounds.admits hadmits⟩
  | lists hrule =>
    obtain ⟨items, hitems, hadmits⟩ := hpayload
    exact ⟨hkind, items, hitems, hrule.admits hadmits⟩

/-- Runs that are as slots want them are so after one slot has been relaxed. -/
theorem forall₂_admits_of_relaxesItem {slots slots' : List Slot}
    (h : RelaxesItem Slot.Relaxes slots slots') {runs : List ContentRun}
    (hruns : List.Forall₂ Slot.Admits slots runs) : List.Forall₂ Slot.Admits slots' runs := by
  obtain ⟨before, after, hslot⟩ := h
  induction before generalizing runs with
  | nil =>
    cases hruns with
    | cons hfirst hrest => exact .cons (hslot.admits hfirst) hrest
  | cons first before ih =>
    cases hruns with
    | cons hfirst hrest => exact .cons hfirst (ih hrest)

/-- Content that a rule admits is admitted by its relaxations. -/
theorem Rule.Relaxes.admitsContent {r r' : Rule} (h : r.Relaxes r') {s : Section}
    (hs : r.AdmitsContent s) : r'.AdmitsContent s := by
  cases h with
  | heading _ hheading =>
    refine { hs with heading := fun rule heading hrule hsome => ?_ }
    exact hheading.allows (HeadingRule.Admits · heading) (fun hrelaxes => hrelaxes.admits)
      (fun rule hrule => hs.heading rule heading hrule hsome) rule hrule
  | paragraphs _ hparagraphs =>
    exact { hs with
      paragraphs := hparagraphs.allows (ParagraphRule.Admits · s.paragraphs)
        (fun hrelaxes => hrelaxes.admits) hs.paragraphs }
  | codeBlocks _ hcodeBlocks =>
    exact { hs with
      codeBlocks := hcodeBlocks.allows (Bounds.admits · s.codeBlocks.length)
        (fun hrelaxes => hrelaxes.admits) hs.codeBlocks }
  | lists _ hlists =>
    exact { hs with
      lists := hlists.allows (ListRule.Admits · s.lists) (fun hrelaxes => hrelaxes.admits)
        hs.lists }
  | sequence _ hsequence =>
    exact { hs with
      sequence := hsequence.allows (List.Forall₂ Slot.Admits · s.content)
        (fun hrelaxes => forall₂_admits_of_relaxesItem hrelaxes) hs.sequence }
  | dropInstruction | makeOptional | allowMore | dropTable | entry => exact { hs with }

/-! ## What instructions and sections they want -/

theorem Rule.Relaxes.instructions_subset {r r' : Rule} (h : r.Relaxes r') :
    r'.instructions ⊆ r.instructions := by
  cases h with
  | dropInstruction _ hinstructions =>
    rw [hinstructions]
    intro text htext
    rw [List.mem_append] at htext ⊢
    exact htext.imp_right (List.mem_cons_of_mem _)
  | _ => exact fun _ htext => htext

/-- Nothing becomes required. -/
theorem Rule.Relaxes.required_of_required {r r' : Rule} (h : r.Relaxes r')
    (hrequired : r'.required = true) : r.required = true := by
  cases h with
  | makeOptional => simp at hrequired
  | _ => exact hrequired

/-- An entry of a table wants no more than another: it is required only if that one is,
    and whatever conforms to that one conforms to it. -/
def WantsNoMore (checker : Checker) (entry entry' : String × Rule) : Prop :=
  (entry'.2.required = true → entry.2.required = true) ∧
    ∀ s : Section, s.Conforms checker entry.2 → s.Conforms checker entry'.2

theorem requiredCount_le_of_forall₂ {checker : Checker} {table table' : List (String × Rule)}
    (h : List.Forall₂ (WantsNoMore checker) table table') :
    requiredCount table' ≤ requiredCount table := by
  unfold requiredCount
  induction h with
  | nil => exact Nat.le_refl _
  | cons hentry _ ih =>
    rw [List.countP_cons, List.countP_cons]
    refine Nat.add_le_add ih ?_
    split
    next hrequired => exact Nat.le_of_eq (if_pos (hentry.1 hrequired)).symm
    next => exact Nat.zero_le _

/-- Sections that fill a table fill one of as many entries, each of which wants no more. -/
theorem Section.Fills.of_forall₂ {checker : Checker} {s : Section} {additional additional' : Bool}
    {table table' : List (String × Rule)} (hadditional : additional = true → additional' = true)
    (htable : List.Forall₂ (WantsNoMore checker) table table')
    (h : s.Fills checker additional table) : s.Fills checker additional' table' := by
  obtain ⟨hleast, hmost, hsections⟩ := h
  have hlength : table.length = table'.length := htable.length_eq
  refine ⟨Nat.le_trans (requiredCount_le_of_forall₂ htable) hleast,
    hlength ▸ hmost.imp_right hadditional, ?_⟩
  by_cases hle : s.sections.length ≤ table.length
  · -- By position in both: the tables are equally long.
    rw [dif_pos hle] at hsections
    rw [dif_pos (hlength ▸ hle)]
    intro i hi
    exact (htable.get (Nat.lt_of_lt_of_le hi hle) _).2 _ (hsections i hi)
  · rw [dif_neg hle] at hsections
    rw [dif_neg (hlength ▸ hle)]
    intro entry' hentry' hrequired'
    obtain ⟨i, hi', rfl⟩ := List.getElem_of_mem hentry'
    have hi : i < table.length := hlength ▸ hi'
    have hentry := htable.get hi hi'
    obtain ⟨child, hchild, hconforms⟩ :=
      hsections table[i] (List.getElem_mem hi) (hentry.1 hrequired')
    exact ⟨child, hchild, hentry.2 child hconforms⟩

theorem WantsNoMore.refl (checker : Checker) (entry : String × Rule) :
    WantsNoMore checker entry entry :=
  ⟨id, fun _ => id⟩

/-- A table of which one entry has been changed so that it wants no more. -/
theorem forall₂_wantsNoMore {checker : Checker} (before after : List (String × Rule))
    {entry entry' : String × Rule} (h : WantsNoMore checker entry entry') :
    List.Forall₂ (WantsNoMore checker) (before ++ entry :: after) (before ++ entry' :: after) := by
  have hrefl : ∀ table, List.Forall₂ (WantsNoMore checker) table table := fun table =>
    List.forall₂_same.2 fun entry _ => WantsNoMore.refl checker entry
  exact List.rel_append (hrefl before) (.cons h (hrefl after))

/-! ## Conformance -/

/-- A section conforms to a relaxation of a rule if what holds below it carries over. -/
theorem Section.Conforms.of_relaxes_of_table {checker : Checker} {r r' : Rule}
    (h : r.Relaxes r') {s : Section} (hs : s.Conforms checker r)
    (htable : (∀ table, r.sections = some table → s.Fills checker r.additionalSections table) →
      ∀ table, r'.sections = some table → s.Fills checker r'.additionalSections table) :
    s.Conforms checker r' := by
  rw [Section.conforms_iff] at hs ⊢
  obtain ⟨hcontent, hinstructions, hbelow⟩ := hs
  exact ⟨h.admitsContent hcontent,
    fun text htext => hinstructions text (h.instructions_subset htext), htable hbelow⟩

/-- A section that conforms to a rule conforms to its relaxations. -/
theorem Section.Conforms.of_relaxes {checker : Checker} {r r' : Rule} (h : r.Relaxes r')
    {s : Section} (hs : s.Conforms checker r) : s.Conforms checker r' := by
  refine hs.of_relaxes_of_table h fun hfills => ?_
  -- Along the relaxation: the one of an entry further down is about all sections.
  induction h generalizing s with
  | dropTable => exact fun table htable => by simp at htable
  | allowMore r =>
    intro table htable
    exact (hfills table htable).of_forall₂ (fun _ => rfl)
      (List.forall₂_same.2 fun entry _ => WantsNoMore.refl checker entry)
  | @entry r before after name below below' htable hbelow ih =>
    intro table' htable'
    obtain rfl := Option.some.inj htable'
    have hentry : WantsNoMore checker (name, below) (name, below') :=
      ⟨hbelow.required_of_required, fun _ hc => hc.of_relaxes_of_table hbelow (ih hc)⟩
    exact (hfills _ htable).of_forall₂ (fun hmore => hmore)
      (forall₂_wantsNoMore before after hentry)
  | _ => exact hfills

/-! ## Documents -/

/-- A document passes iff its sections are in place and each that has a rule at its position
    conforms to it. -/
theorem checkDocument_eq_nil_iff {checker : Checker} (hdecisive : checker.Decisive)
    (table : List (String × Rule)) (document : Document) :
    (checkDocument checker table document).result = .ok [] ↔
      document.misplaced? = none ∧
        ∀ i (hi : i < document.sections.length) (hn : i < table.length),
          document.sections[i].Conforms checker (table[i]).2 := by
  rw [checkDocument_eq]
  cases hmisplaced : document.misplaced? with
  | some s => simp [Run.halt]
  | none =>
    have hpairs : (checkPairs checker table document.sections).Ends _ :=
      checkPairs_ends (fun entry _ s => Rule.check_ends hdecisive entry.2 s) document.sections
    simpa using hpairs.result_eq_nil_iff

/-- A document that passes a table passes the table after one relaxation. -/
theorem checkDocument_eq_nil_of_tableRelaxes {checker : Checker} (hdecisive : checker.Decisive)
    {table table' : List (String × Rule)} (h : TableRelaxes table table') {document : Document}
    (hpasses : (checkDocument checker table document).result = .ok []) :
    (checkDocument checker table' document).result = .ok [] := by
  rw [checkDocument_eq_nil_iff hdecisive] at hpasses ⊢
  obtain ⟨hplaced, hconforms⟩ := hpasses
  refine ⟨hplaced, ?_⟩
  cases h with
  | drop => exact fun i _ hn => absurd hn (Nat.not_lt_zero i)
  | entry before after name hrule =>
    have hentry : WantsNoMore checker (name, _) (name, _) :=
      ⟨hrule.required_of_required, fun _ hc => hc.of_relaxes hrule⟩
    have htable := forall₂_wantsNoMore before after hentry
    intro i hi hn'
    have hn := htable.length_eq.symm ▸ hn'
    exact (htable.get hn hn').2 _ (hconforms i hi hn)

/-- **Weaker templates accept more.** A document in which a table finds nothing wrong passes
    every table that comes from it by any number of relaxations. -/
theorem checkDocument_eq_nil_of_relaxed {checker : Checker} (hdecisive : checker.Decisive)
    {table table' : List (String × Rule)}
    (hrelaxed : Relation.ReflTransGen TableRelaxes table table') (document : Document)
    (hpasses : (checkDocument checker table document).result = .ok []) :
    (checkDocument checker table' document).result = .ok [] := by
  induction hrelaxed with
  | refl => exact hpasses
  | tail _ hstep ih => exact checkDocument_eq_nil_of_tableRelaxes hdecisive hstep ih

/-- Two relaxations at two depths: the upper bound on paragraphs goes, and the section below,
    which passes its instruction, need not be there any more. -/
theorem passes_after_two_relaxations :
    let checker : Checker := fun content _ => if content = "Done." then .pass else .fail "no"
    let steps : Rule := { instructions := ["Say that it is done."] }
    let guide : Rule :=
      { paragraphs := some { count := ⟨some 1, some 2⟩ }
        sections := some [("steps", steps)] }
    let steps' : Rule := { steps with required := false }
    let guide' : Rule :=
      { paragraphs := some { count := ⟨some 1, none⟩ }
        sections := some [("steps", steps')] }
    let document : Document :=
      { sections := [{ paragraphs := [⟨"Read on.", .zero⟩],
                       sections := [{ rawContent := "Done." }] }] }
    checker.Decisive ∧
      Relation.ReflTransGen TableRelaxes [("guide", guide)] [("guide", guide')] ∧
      (checkDocument checker [("guide", guide)] document).result = .ok [] ∧
      (checkDocument checker [("guide", guide')] document).result = .ok [] := by
  intro checker steps guide steps' guide' document
  have hdecisive : checker.Decisive := by
    intro content instruction
    show (if content = "Done." then Answer.pass else .fail "no").IsVerdict
    split <;> trivial
  have hbound : guide.Relaxes { guide with paragraphs := some { count := ⟨some 1, none⟩ } } :=
    .paragraphs guide (.change (.count _ (.max _ (.drop _))))
  have hoptional : Rule.Relaxes { guide with paragraphs := some { count := ⟨some 1, none⟩ } }
      guide' :=
    @Rule.Relaxes.entry _ [] [] "steps" steps steps' rfl (.makeOptional steps)
  have hrelaxed : Relation.ReflTransGen TableRelaxes [("guide", guide)] [("guide", guide')] :=
    .tail (.single (.entry [] [] "guide" hbound)) (.entry [] [] "guide" hoptional)
  have hpasses : (checkDocument checker [("guide", guide)] document).result = .ok [] := by
    decide
  exact ⟨hdecisive, hrelaxed, hpasses,
    checkDocument_eq_nil_of_relaxed hdecisive hrelaxed document hpasses⟩

end Rubric
