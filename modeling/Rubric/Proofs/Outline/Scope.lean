/-
  Rubric.Proofs.Outline.Scope

  The outline of a list of blocks by recursion on scopes.

  The scope of a heading is what follows it up to the next heading of its level
  or above. The section of the heading is made from its scope alone: the blocks
  before the first heading in it are the section's own, and the rest makes the
  sections below it. `sectionsOf` says this as a recursion. The fold keeps a
  stack of open sections instead; `document_sections` shows that the two make
  the same sections. Facts about outlines are proved of the recursion.
-/
import Mathlib.Data.List.TakeWhile
import Rubric.Outline.Fold

namespace Rubric

/-! ## Blocks and headings -/

/-- The heading that a block is. -/
def Block.heading? : Block → Option Heading
  | .heading h => some h
  | _ => none

theorem Block.eq_heading {b : Block} {h : Heading} (hb : b.heading? = some h) :
    b = .heading h := by
  cases b <;> simp [Block.heading?] at hb
  rw [hb]

/-- The headings among some blocks, in order. -/
def headingsOf (blocks : List Block) : List Heading :=
  blocks.filterMap Block.heading?

namespace Fold

/-! ## Scopes -/

/-- Whether a block ends the scope of headings of a level. -/
def closes (level : Nat) : Block → Bool
  | .heading h => h.level ≤ level
  | _ => false

/-- The blocks up to the next heading of a level or above. -/
def scope (level : Nat) (blocks : List Block) : List Block :=
  blocks.takeWhile fun b => !closes level b

/-- The blocks from the next heading of a level or above on. -/
def beyond (level : Nat) (blocks : List Block) : List Block :=
  blocks.dropWhile fun b => !closes level b

/-- The blocks before the first heading. -/
def own (blocks : List Block) : List Block :=
  blocks.takeWhile fun b => b.heading?.isNone

theorem scope_append_beyond (level : Nat) (blocks : List Block) :
    scope level blocks ++ beyond level blocks = blocks :=
  List.takeWhile_append_dropWhile

theorem scope_length_le (level : Nat) (blocks : List Block) :
    (scope level blocks).length ≤ blocks.length :=
  (List.takeWhile_sublist _).length_le

theorem beyond_length_le (level : Nat) (blocks : List Block) :
    (beyond level blocks).length ≤ blocks.length :=
  (List.dropWhile_sublist _).length_le

@[simp] theorem scope_nil (level : Nat) : scope level [] = [] := rfl

@[simp] theorem beyond_nil (level : Nat) : beyond level [] = [] := rfl

@[simp] theorem own_nil : own [] = [] := rfl

theorem scope_cons_heading_of_le {level : Nat} {h : Heading} (hle : h.level ≤ level)
    (rest : List Block) : scope level (.heading h :: rest) = [] := by
  simp [scope, closes, hle]

theorem beyond_cons_heading_of_le {level : Nat} {h : Heading} (hle : h.level ≤ level)
    (rest : List Block) : beyond level (.heading h :: rest) = .heading h :: rest := by
  simp [beyond, closes, hle]

theorem scope_cons_heading_of_lt {level : Nat} {h : Heading} (hlt : level < h.level)
    (rest : List Block) :
    scope level (.heading h :: rest) = .heading h :: scope level rest := by
  simp [scope, closes, hlt]

theorem beyond_cons_heading_of_lt {level : Nat} {h : Heading} (hlt : level < h.level)
    (rest : List Block) : beyond level (.heading h :: rest) = beyond level rest := by
  simp [beyond, closes, hlt]

theorem closes_of_heading?_eq_none {b : Block} (hb : b.heading? = none) (level : Nat) :
    closes level b = false := by
  cases b with
  | heading h => simp [Block.heading?] at hb
  | _ => rfl

theorem scope_cons_of_heading?_eq_none {b : Block} (hb : b.heading? = none) (level : Nat)
    (rest : List Block) : scope level (b :: rest) = b :: scope level rest := by
  simp [scope, closes_of_heading?_eq_none hb]

theorem beyond_cons_of_heading?_eq_none {b : Block} (hb : b.heading? = none) (level : Nat)
    (rest : List Block) : beyond level (b :: rest) = beyond level rest := by
  simp [beyond, closes_of_heading?_eq_none hb]

@[simp] theorem own_cons_heading (h : Heading) (rest : List Block) :
    own (.heading h :: rest) = [] := rfl

theorem own_cons_of_heading?_eq_none {b : Block} (hb : b.heading? = none) (rest : List Block) :
    own (b :: rest) = b :: own rest := by
  simp [own, hb]

/-- What lies beyond a scope is nothing or starts with the heading that ended it. -/
theorem beyond_eq_nil_or (level : Nat) (blocks : List Block) :
    beyond level blocks = [] ∨
      ∃ h rest, h.level ≤ level ∧ beyond level blocks = .heading h :: rest := by
  induction blocks with
  | nil => exact Or.inl rfl
  | cons b rest ih =>
    cases hb : b.heading? with
    | none => rwa [beyond_cons_of_heading?_eq_none hb]
    | some h =>
      obtain rfl := Block.eq_heading hb
      rcases Nat.lt_or_ge level h.level with hlt | hle
      · rwa [beyond_cons_heading_of_lt hlt]
      · exact Or.inr ⟨h, rest, hle, beyond_cons_heading_of_le hle rest⟩

theorem not_closes_of_mem_scope {level : Nat} {blocks : List Block} {b : Block}
    (hmem : b ∈ scope level blocks) : (!closes level b) = true :=
  List.mem_takeWhile_imp (p := fun b => !closes level b) hmem

/-- Headings inside a scope are deeper than its level. -/
theorem lt_level_of_mem_scope {level : Nat} {blocks : List Block} {h : Heading}
    (hmem : h ∈ headingsOf (scope level blocks)) : level < h.level := by
  obtain ⟨b, hb, hheading⟩ := List.mem_filterMap.1 hmem
  have hopen := not_closes_of_mem_scope hb
  cases b <;> simp [Block.heading?] at hheading
  subst hheading
  simpa [closes] using hopen

/-! ### Scopes in scopes -/

/-- What is left of an outer scope after a deeper one does not go on with it. -/
theorem scope_and_beyond_scope_beyond (outer inner : Nat) (blocks : List Block) :
    scope inner (scope outer (beyond inner blocks)) = [] ∧
      beyond inner (scope outer (beyond inner blocks)) = scope outer (beyond inner blocks) := by
  rcases beyond_eq_nil_or inner blocks with hnil | ⟨h, rest, hle, hcons⟩
  · rw [hnil]
    exact ⟨rfl, rfl⟩
  · rw [hcons]
    -- The heading after the inner scope goes on with the outer one or ends it as well.
    rcases Nat.lt_or_ge outer h.level with hdeep | hclosed
    · rw [scope_cons_heading_of_lt hdeep]
      exact ⟨scope_cons_heading_of_le hle _, beyond_cons_heading_of_le hle _⟩
    · rw [scope_cons_heading_of_le hclosed]
      exact ⟨rfl, rfl⟩

section
variable {outer inner : Nat} (hlt : outer < inner)
include hlt

theorem not_closes_outer {b : Block} (hb : (!closes inner b) = true) :
    (!closes outer b) = true := by
  cases b with
  | heading h =>
    simp only [closes, Bool.not_eq_true', decide_eq_false_iff_not] at hb ⊢
    omega
  | _ => rfl

/-- A deeper scope that starts at the same place lies inside the outer one, which goes
    on after it. -/
theorem scope_eq_append (blocks : List Block) :
    scope outer blocks = scope inner blocks ++ scope outer (beyond inner blocks) :=
  calc scope outer blocks
      = scope outer (scope inner blocks ++ beyond inner blocks) := by rw [scope_append_beyond]
    _ = scope inner blocks ++ scope outer (beyond inner blocks) :=
        List.takeWhile_append_of_pos fun _ hb =>
          not_closes_outer hlt (not_closes_of_mem_scope hb)

theorem beyond_beyond (blocks : List Block) :
    beyond outer (beyond inner blocks) = beyond outer blocks :=
  calc beyond outer (beyond inner blocks)
      = beyond outer (scope inner blocks ++ beyond inner blocks) :=
        (List.dropWhile_append_of_pos fun _ hb =>
          not_closes_outer hlt (not_closes_of_mem_scope hb)).symm
    _ = beyond outer blocks := by rw [scope_append_beyond]

theorem scope_scope (blocks : List Block) :
    scope inner (scope outer blocks) = scope inner blocks := by
  have hrest := (scope_and_beyond_scope_beyond outer inner blocks).1
  rw [scope_eq_append hlt]
  calc scope inner (scope inner blocks ++ scope outer (beyond inner blocks))
      = scope inner blocks ++ scope inner (scope outer (beyond inner blocks)) :=
        List.takeWhile_append_of_pos fun _ hb => not_closes_of_mem_scope hb
    _ = scope inner blocks := by rw [hrest, List.append_nil]

theorem beyond_scope (blocks : List Block) :
    beyond inner (scope outer blocks) = scope outer (beyond inner blocks) := by
  have hrest := (scope_and_beyond_scope_beyond outer inner blocks).2
  rw [scope_eq_append hlt]
  calc beyond inner (scope inner blocks ++ scope outer (beyond inner blocks))
      = beyond inner (scope outer (beyond inner blocks)) :=
        List.dropWhile_append_of_pos fun _ hb => not_closes_of_mem_scope hb
    _ = scope outer (beyond inner blocks) := hrest

end

/-! ## Sections by recursion on scopes -/

/-- The slugs so far, after one more block. -/
def see (seen : List String) : Block → List String
  | .heading h => Slug.ofHeading h.content :: seen
  | _ => seen

/-- The section that a heading opens, before anything is in it. -/
def opened (seen : List String) (h : Heading) : Section :=
  { id := Slug.next seen h.content, heading := some h, position := h.position }

/-- The complete section of a heading, from the blocks of its own and the sections below. -/
def assemble (source : List Char) (seen : List String) (h : Heading) (blocks : List Block)
    (children : List Section) : Section :=
  settle source { blocks.foldl addBlock (opened seen h) with sections := children }

/-- The sections that some blocks make, after headings with the slugs `seen`. Blocks
    before the first heading belong to none. -/
def sectionsOf (source : List Char) (seen : List String) : List Block → List Section
  | [] => []
  | .heading h :: rest =>
    assemble source seen h (own (scope h.level rest))
        (sectionsOf source (see seen (.heading h)) (scope h.level rest))
      :: sectionsOf source ((scope h.level rest).foldl see (see seen (.heading h)))
        (beyond h.level rest)
  | _ :: rest => sectionsOf source seen rest
termination_by blocks => blocks.length
decreasing_by
  · exact Nat.lt_succ_of_le (scope_length_le h.level rest)
  · exact Nat.lt_succ_of_le (beyond_length_le h.level rest)
  · exact Nat.lt_succ_self _

@[simp] theorem sectionsOf_nil (source : List Char) (seen : List String) :
    sectionsOf source seen [] = [] := by
  rw [sectionsOf]

theorem sectionsOf_cons_heading (source : List Char) (seen : List String) (h : Heading)
    (rest : List Block) :
    sectionsOf source seen (.heading h :: rest)
      = assemble source seen h (own (scope h.level rest))
          (sectionsOf source (see seen (.heading h)) (scope h.level rest))
        :: sectionsOf source ((scope h.level rest).foldl see (see seen (.heading h)))
          (beyond h.level rest) := by
  rw [sectionsOf]

theorem sectionsOf_cons_of_heading?_eq_none {b : Block} (hb : b.heading? = none)
    (source : List Char) (seen : List String) (rest : List Block) :
    sectionsOf source seen (b :: rest) = sectionsOf source seen rest := by
  cases b with
  | heading h => simp [Block.heading?] at hb
  | _ => rw [sectionsOf]; simp

/-- Induction along scopes: what holds of no blocks, of blocks after one that is no
    heading, and of a heading if it holds of its scope and of what lies beyond. -/
theorem scopeInduction {motive : List Block → Prop} (nil : motive [])
    (block : ∀ b rest, b.heading? = none → motive rest → motive (b :: rest))
    (heading : ∀ h rest, motive (scope h.level rest) → motive (beyond h.level rest) →
      motive (.heading h :: rest))
    (blocks : List Block) : motive blocks :=
  match blocks with
  | [] => nil
  | .heading h :: rest =>
    have := scope_length_le h.level rest
    have := beyond_length_le h.level rest
    -- Both parts of what follows the heading are shorter than the whole.
    heading h rest (scopeInduction nil block heading (scope h.level rest))
      (scopeInduction nil block heading (beyond h.level rest))
  | .paragraph p :: rest => block _ rest rfl (scopeInduction nil block heading rest)
  | .codeBlock c :: rest => block _ rest rfl (scopeInduction nil block heading rest)
  | .list l :: rest => block _ rest rfl (scopeInduction nil block heading rest)
  | .other span :: rest => block _ rest rfl (scopeInduction nil block heading rest)
termination_by blocks.length
decreasing_by all_goals (simp only [List.length_cons]; omega)

/-! ## The fold makes these sections -/

/-- The sections that open sections and further blocks make: each open section takes in
    its scope, settles, and goes below the next one or to the top. `child?` is the
    section that settled last. -/
def unwind (source : List Char) (seen : List String) (child? : Option Section) :
    List Open → List Block → List Section
  | [], blocks => child?.toList ++ sectionsOf source seen blocks
  | top :: stack, blocks =>
    let grown := (own (scope top.level blocks)).foldl addBlock top.body
    let body := { grown with sections := top.body.sections ++ child?.toList
                                ++ sectionsOf source seen (scope top.level blocks) }
    unwind source ((scope top.level blocks).foldl see seen) (some (settle source body)) stack
      (beyond top.level blocks)

/-- Adding a block leaves the sections below alone. -/
theorem addBlock_sections (s : Section) (block : Block) :
    (addBlock s block).sections = s.sections := by
  cases block <;> rfl

theorem unwind_cons (source : List Char) (seen : List String) (child? : Option Section)
    (top : Open) (stack : List Open) (blocks : List Block) :
    unwind source seen child? (top :: stack) blocks
      = unwind source ((scope top.level blocks).foldl see seen)
          (some (settle source
            { (own (scope top.level blocks)).foldl addBlock top.body with
              sections := top.body.sections ++ child?.toList
                ++ sectionsOf source seen (scope top.level blocks) }))
          stack (beyond top.level blocks) := rfl

/-- With nothing in its scope an open section settles as it is. -/
theorem unwind_cons_of_scope_eq_nil {source : List Char} {seen : List String}
    {child? : Option Section} {top : Open} {stack : List Open} {blocks : List Block}
    (hscope : scope top.level blocks = []) :
    unwind source seen child? (top :: stack) blocks
      = unwind source seen
          (some (settle source { top.body with
            sections := top.body.sections ++ child?.toList })) stack blocks := by
  have hbeyond : beyond top.level blocks = blocks := by
    have happend := scope_append_beyond top.level blocks
    rwa [hscope, List.nil_append] at happend
  rw [unwind_cons, hscope, hbeyond]
  simp

/-- At the end every open section settles. -/
theorem closeFrom_zero (source : List Char) (seen : List String) (done : List Section)
    (child? : Option Section) (stack : List Open) :
    (closeFrom source 0 done child? stack).1 = done ++ unwind source seen child? stack [] := by
  -- No block is left, so the scope of every open section is empty.
  induction stack generalizing child? with
  | nil => simp [closeFrom, unwind]
  | cons top stack ih =>
    rw [closeFrom, if_pos (Nat.zero_le _), ih, unwind_cons_of_scope_eq_nil rfl]

/-- A heading settles the open sections that it closes and opens its own. -/
theorem unwind_heading (source : List Char) (seen : List String) (h : Heading)
    (rest : List Block) (done : List Section) (child? : Option Section) (stack : List Open) :
    (closeFrom source h.level done child? stack).1
        ++ unwind source (see seen (.heading h)) none
          (⟨h.level, opened seen h⟩ :: (closeFrom source h.level done child? stack).2) rest
      = done ++ unwind source seen child? stack (.heading h :: rest) := by
  induction stack generalizing child? with
  | nil =>
    rw [closeFrom, unwind_cons, unwind, unwind, sectionsOf_cons_heading]
    simp [assemble, opened]
  | cons top stack ih =>
    rcases Nat.lt_or_ge top.level h.level with hlt | hle
    · -- The new section lies in the scope of `top`, which goes on after it.
      have hown : own (scope top.level (beyond h.level rest)) = [] := by
        rcases beyond_eq_nil_or h.level rest with hnil | ⟨g, tail, _, hcons⟩
        · rw [hnil]
          rfl
        · rw [hcons]
          rcases Nat.lt_or_ge top.level g.level with hg | hg
          · rw [scope_cons_heading_of_lt hg, own_cons_heading]
          · rw [scope_cons_heading_of_le hg, own_nil]
      rw [closeFrom, if_neg (by omega), unwind_cons, unwind_cons, unwind_cons,
        scope_cons_heading_of_lt hlt, beyond_cons_heading_of_lt hlt, own_cons_heading,
        sectionsOf_cons_heading, scope_scope hlt, beyond_scope hlt, beyond_beyond hlt, hown,
        List.foldl_cons, scope_eq_append hlt rest, List.foldl_append]
      simp [assemble, opened]
    · -- The heading ends the scope of `top`, which settles as it is.
      have hscope : scope top.level (.heading h :: rest) = [] :=
        scope_cons_heading_of_le hle rest
      rw [closeFrom, if_pos hle, ih, unwind_cons_of_scope_eq_nil hscope]

/-- Every block but a heading only touches the innermost open section, or the preamble. -/
theorem step_of_heading?_eq_none {block : Block} (hb : block.heading? = none)
    (source : List Char) (state : State) :
    step source state block
      = match state.stack with
        | top :: rest =>
          { state with stack := { top with body := addBlock top.body block } :: rest }
        | [] =>
          { state with
            preamble := some (match state.preamble with
              | some span => span.cover block.position
              | none => block.position) } := by
  cases block with
  | heading h => simp [Block.heading?] at hb
  | _ => rfl

theorem see_of_heading?_eq_none {block : Block} (hb : block.heading? = none)
    (seen : List String) : see seen block = seen := by
  cases block with
  | heading h => simp [Block.heading?] at hb
  | _ => rfl

/-- One more block goes where `unwind` has it. -/
theorem unwind_step (source : List Char) (state : State) (block : Block)
    (rest : List Block) :
    (step source state block).done
        ++ unwind source (step source state block).seen none (step source state block).stack rest
      = state.done ++ unwind source state.seen none state.stack (block :: rest) := by
  cases hb : block.heading? with
  | some h =>
    obtain rfl := Block.eq_heading hb
    exact unwind_heading source state.seen h rest state.done none state.stack
  | none =>
    obtain ⟨done, stack, seen, preamble⟩ := state
    rw [step_of_heading?_eq_none hb]
    cases stack with
    | nil =>
      show done ++ (none.toList ++ sectionsOf source seen rest)
        = done ++ (none.toList ++ sectionsOf source seen (block :: rest))
      rw [sectionsOf_cons_of_heading?_eq_none hb]
    | cons top stack =>
      show done ++ unwind source seen none (⟨top.level, addBlock top.body block⟩ :: stack) rest
        = done ++ unwind source seen none (top :: stack) (block :: rest)
      rw [unwind_cons, unwind_cons, scope_cons_of_heading?_eq_none hb,
        beyond_cons_of_heading?_eq_none hb, own_cons_of_heading?_eq_none hb,
        sectionsOf_cons_of_heading?_eq_none hb, List.foldl_cons, List.foldl_cons,
        addBlock_sections, see_of_heading?_eq_none hb]

/-- Folding the blocks that are left, and settling what is open then. -/
theorem unwind_foldl (source : List Char) (state : State) (blocks : List Block) :
    (closeFrom source 0 (blocks.foldl (step source) state).done none
        (blocks.foldl (step source) state).stack).1
      = state.done ++ unwind source state.seen none state.stack blocks := by
  induction blocks generalizing state with
  | nil => exact closeFrom_zero source state.seen state.done none state.stack
  | cons block rest ih => rw [List.foldl_cons, ih, unwind_step]

/-- **The fold makes the sections of the recursion on scopes.** -/
theorem document_sections (source : String) (blocks : List Block) :
    (document source blocks).sections = sectionsOf source.toList [] blocks :=
  unwind_foldl source.toList {} blocks

end Fold

end Rubric
