/-
  Rubric.Proofs.Outline.Assembled

  The sections of an outline in one list.

  Walking over an outline meets one section for each heading. `assembled` lists
  these sections by going through the blocks once: at a heading it has the section
  of its scope, and goes on right behind the heading, inside of the scope. What
  holds of every section is so an induction on the blocks alone, with no nesting.
-/
import Rubric.Proofs.Outline.ReadingOrder

namespace Rubric

namespace Fold

/-! ## What a scope starts with -/

/-- A scope starts with the same blocks before its first heading as what it is cut from. -/
theorem own_scope (level : Nat) (blocks : List Block) :
    own (scope level blocks) = own blocks := by
  induction blocks with
  | nil => rfl
  | cons b rest ih =>
    cases hb : b.heading? with
    | none =>
      rw [scope_cons_of_heading?_eq_none hb, own_cons_of_heading?_eq_none hb,
        own_cons_of_heading?_eq_none hb, ih]
    | some h =>
      obtain rfl := Block.eq_heading hb
      rcases Nat.lt_or_ge level h.level with hlt | hle
      · rw [scope_cons_heading_of_lt hlt, own_cons_heading, own_cons_heading]
      · rw [scope_cons_heading_of_le hle, own_cons_heading, own_nil]

/-! ## The list of the sections -/

/-- The section of a heading with some blocks after it. -/
def sectionAt (source : List Char) (seen : List String) (h : Heading) (rest : List Block) :
    Section :=
  assemble source seen h (own (scope h.level rest))
    (sectionsOf source (see seen (.heading h)) (scope h.level rest))

/-- The sections of the headings among some blocks in order, after headings with the slugs
    `seen`. -/
def assembled (source : List Char) (seen : List String) : List Block → List Section
  | [] => []
  | .heading h :: rest =>
    sectionAt source seen h rest :: assembled source (see seen (.heading h)) rest
  | _ :: rest => assembled source seen rest

variable (source : List Char) (seen : List String)

theorem assembled_cons_heading (h : Heading) (rest : List Block) :
    assembled source seen (.heading h :: rest)
      = sectionAt source seen h rest :: assembled source (see seen (.heading h)) rest := rfl

theorem assembled_cons_of_heading?_eq_none {b : Block} (hb : b.heading? = none)
    (rest : List Block) : assembled source seen (b :: rest) = assembled source seen rest := by
  cases b with
  | heading h => simp [Block.heading?] at hb
  | _ => rfl

theorem sectionAt_heading (h : Heading) (rest : List Block) :
    (sectionAt source seen h rest).heading = some h :=
  assemble_heading source seen h _ _

theorem sectionAt_sections (h : Heading) (rest : List Block) :
    (sectionAt source seen h rest).sections
      = sectionsOf source (see seen (.heading h)) (scope h.level rest) :=
  assemble_sections source seen h _ _

/-- The section of a heading looks at its scope only. -/
theorem sectionAt_scope {level : Nat} {h : Heading} (hlt : level < h.level)
    (rest : List Block) :
    sectionAt source seen h (scope level rest) = sectionAt source seen h rest := by
  rw [sectionAt, sectionAt, scope_scope hlt]

/-- Cutting blocks after a scope cuts no section of a heading in it. -/
theorem assembled_scope_append (level : Nat) (blocks : List Block) :
    assembled source seen (scope level blocks)
        ++ assembled source ((scope level blocks).foldl see seen) (beyond level blocks)
      = assembled source seen blocks := by
  induction blocks generalizing seen with
  | nil => rfl
  | cons b rest ih =>
    cases hb : b.heading? with
    | none =>
      rw [scope_cons_of_heading?_eq_none hb, beyond_cons_of_heading?_eq_none hb,
        assembled_cons_of_heading?_eq_none source seen hb,
        assembled_cons_of_heading?_eq_none source seen hb, List.foldl_cons,
        see_of_heading?_eq_none hb, ih]
    | some h =>
      obtain rfl := Block.eq_heading hb
      rcases Nat.lt_or_ge level h.level with hlt | hle
      · rw [scope_cons_heading_of_lt hlt, beyond_cons_heading_of_lt hlt,
          assembled_cons_heading, assembled_cons_heading, sectionAt_scope source seen hlt,
          List.cons_append, List.foldl_cons, ih]
      · rw [scope_cons_heading_of_le hle, beyond_cons_heading_of_le hle]
        rfl

/-- Walking over the sections of some blocks meets the sections of their headings one after
    another. -/
theorem map_snd_walkAll_sectionsOf (blocks : List Block) (parent? : Option Nat)
    (place : Nat) :
    (walkAll parent? place (sectionsOf source seen blocks)).map Prod.snd
      = assembled source seen blocks := by
  induction blocks using scopeInduction generalizing seen parent? place with
  | nil =>
    rw [sectionsOf_nil, walkAll]
    rfl
  | block b rest hb ih =>
    rw [sectionsOf_cons_of_heading?_eq_none hb, ih,
      assembled_cons_of_heading?_eq_none source seen hb]
  | heading h rest ihscope ihbeyond =>
    rw [sectionsOf_cons_heading, walkAll, Section.walk_eq, assemble_sections, List.map_append,
      List.map_cons, ihscope, ihbeyond, List.cons_append, assembled_scope_append]
    rfl

/-- The section at a place of the list is that of a heading with so many headings before. -/
theorem getElem?_assembled {blocks : List Block} {k : Nat} {s : Section}
    (hs : (assembled source seen blocks)[k]? = some s) :
    ∃ before h rest, blocks = before ++ .heading h :: rest ∧
      (headingsOf before).length = k ∧
      s = sectionAt source (before.foldl see seen) h rest := by
  induction blocks generalizing seen k with
  | nil => simp [assembled] at hs
  | cons b blocks ih =>
    cases hb : b.heading? with
    | none =>
      rw [assembled_cons_of_heading?_eq_none source seen hb] at hs
      obtain ⟨before, h, rest, rfl, hlength, rfl⟩ := ih seen hs
      refine ⟨b :: before, h, rest, rfl, ?_, ?_⟩
      · rwa [headingsOf_cons_of_heading?_eq_none hb]
      · rw [List.foldl_cons, see_of_heading?_eq_none hb]
    | some g =>
      obtain rfl := Block.eq_heading hb
      rw [assembled_cons_heading] at hs
      cases k with
      | zero => exact ⟨[], g, blocks, rfl, rfl, (Option.some.inj hs).symm⟩
      | succ k =>
        obtain ⟨before, h, rest, rfl, hlength, rfl⟩ := ih (see seen (.heading g)) (k := k) hs
        refine ⟨.heading g :: before, h, rest, rfl, ?_, rfl⟩
        rw [headingsOf_cons_heading, List.length_cons, hlength]

/-- A heading with some blocks before it has its section behind those of the headings there. -/
theorem getElem?_assembled_append (before : List Block) (h : Heading) (rest : List Block) :
    (assembled source seen (before ++ .heading h :: rest))[(headingsOf before).length]?
      = some (sectionAt source (before.foldl see seen) h rest) := by
  induction before generalizing seen with
  | nil => rfl
  | cons b before ih =>
    cases hb : b.heading? with
    | none =>
      rw [List.cons_append, assembled_cons_of_heading?_eq_none source seen hb,
        headingsOf_cons_of_heading?_eq_none hb, ih, List.foldl_cons, see_of_heading?_eq_none hb]
    | some g =>
      obtain rfl := Block.eq_heading hb
      rw [List.cons_append, assembled_cons_heading, headingsOf_cons_heading, List.length_cons,
        List.getElem?_cons_succ, ih, List.foldl_cons]

/-! ## Sections of an outline -/

/-- The section at a place of an outline is that of a heading with so many headings
    before. -/
theorem exists_sectionAt_of_getElem?_walkAll {source : String} {blocks : List Block} {k : Nat}
    {parent? : Option Nat} {s : Section}
    (hs : (walkAll none 0 (document source blocks).sections)[k]? = some (parent?, s)) :
    ∃ before h rest, blocks = before ++ .heading h :: rest ∧
      (headingsOf before).length = k ∧
      s = sectionAt source.toList (before.foldl see []) h rest := by
  have hk : (assembled source.toList [] blocks)[k]? = some s := by
    rw [← map_snd_walkAll_sectionsOf source.toList [] blocks none 0, List.getElem?_map,
      ← document_sections, hs]
    rfl
  exact getElem?_assembled source.toList [] hk

end Fold

end Rubric
