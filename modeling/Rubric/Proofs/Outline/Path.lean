/-
  Rubric.Proofs.Outline.Path

  Naming the sections of an outline by paths.

  A path is the number of a section among its siblings at every level, from the top
  down. So two sections that look alike are told apart, the path of a section begins
  the paths of all sections below it, and reading order is the order of paths. All
  paths of one depth lead to the sections of one level.
-/
import Rubric.Outline.Basic

namespace Rubric

/-- The section at a path below a section, which itself is at the empty path. -/
def Section.at? (s : Section) : List Nat → Option Section
  | [] => some s
  | i :: path => s.sections[i]?.bind fun child => child.at? path

/-- The section at a path among some sections. -/
def sectionAt? (sections : List Section) : List Nat → Option Section
  | [] => none
  | i :: path => sections[i]?.bind fun s => s.at? path

/-- The section at a path of a document. -/
def Document.at? (document : Document) (path : List Nat) : Option Section :=
  sectionAt? document.sections path

@[simp] theorem Section.at?_nil (s : Section) : s.at? [] = some s := rfl

@[simp] theorem sectionAt?_nil (sections : List Section) : sectionAt? sections [] = none := rfl

theorem Section.at?_of_ne_nil (s : Section) {path : List Nat} (h : path ≠ []) :
    s.at? path = sectionAt? s.sections path := by
  cases path with
  | nil => exact absurd rfl h
  | cons i path => rfl

theorem sectionAt?_cons_eq_some_iff {sections : List Section} {i : Nat} {path : List Nat}
    {x : Section} :
    sectionAt? sections (i :: path) = some x ↔
      ∃ s, sections[i]? = some s ∧ s.at? path = some x :=
  Option.bind_eq_some_iff

theorem Section.at?_append (s : Section) (path below : List Nat) :
    s.at? (path ++ below) = (s.at? path).bind fun x => x.at? below := by
  induction path generalizing s with
  | nil => rfl
  | cons i path ih =>
    rw [List.cons_append, at?, at?, Option.bind_assoc]
    exact congrArg _ (funext ih)

theorem sectionAt?_append {sections : List Section} {path : List Nat} (h : path ≠ [])
    (below : List Nat) :
    sectionAt? sections (path ++ below)
      = (sectionAt? sections path).bind fun x => x.at? below := by
  cases path with
  | nil => exact absurd rfl h
  | cons i path =>
    rw [List.cons_append, sectionAt?, sectionAt?, Option.bind_assoc]
    exact congrArg _ (funext fun s => s.at?_append path below)

/-- Induction on a section: what holds of a section if it holds of all its children. -/
theorem Section.childInduction {motive : Section → Prop}
    (step : ∀ s, (∀ child ∈ s.sections, motive child) → motive s) (s : Section) : motive s :=
  step s fun child hchild =>
    have : sizeOf child < sizeOf s := by
      have hlt := List.sizeOf_lt_of_mem hchild
      cases s
      simp only [Section.mk.sizeOf_spec] at hlt ⊢
      omega
    childInduction step child
termination_by sizeOf s

/-- Induction on some sections: what holds of no sections, and of some if it holds of those
    below the first and of those after it. -/
theorem sectionsInduction {motive : List Section → Prop} (nil : motive [])
    (cons : ∀ s rest, motive s.sections → motive rest → motive (s :: rest))
    (sections : List Section) : motive sections := by
  have hall : ∀ sections : List Section, (∀ s ∈ sections, motive s.sections) →
      motive sections := by
    intro sections hbelow
    induction sections with
    | nil => exact nil
    | cons s rest ih =>
      rw [List.forall_mem_cons] at hbelow
      exact cons s rest hbelow.1 (ih hbelow.2)
  have hbelow : ∀ s : Section, motive s.sections := fun s => by
    induction s using Section.childInduction with
    | step s ih => exact hall s.sections ih
  exact hall sections fun s _ => hbelow s

/-! ## Levels -/

mutual

/-- How many levels a section and the sections below it make. -/
def Section.levels : Section → Nat
  | ⟨_, _, _, _, _, _, sections, _, _⟩ => levelsOf sections + 1

/-- How many levels some sections and those below them make. -/
def levelsOf : List Section → Nat
  | [] => 0
  | s :: rest => max s.levels (levelsOf rest)

end

/-- The sections at a depth below some sections, which themselves are at depth 0. -/
def sectionsAtDepth : Nat → List Section → List Section
  | 0, sections => sections
  | depth + 1, sections => sectionsAtDepth depth (sections.flatMap Section.sections)

theorem Section.levels_eq (s : Section) : s.levels = levelsOf s.sections + 1 := by
  cases s
  rw [levels]

theorem levelsOf_cons_le_iff {s : Section} {rest : List Section} {n : Nat} :
    levelsOf (s :: rest) ≤ n ↔ levelsOf s.sections + 1 ≤ n ∧ levelsOf rest ≤ n := by
  rw [levelsOf, Section.levels_eq]
  omega

theorem levelsOf_le_iff {sections : List Section} {n : Nat} :
    levelsOf sections ≤ n ↔ ∀ s ∈ sections, levelsOf s.sections + 1 ≤ n := by
  induction sections with
  | nil => exact iff_of_true (Nat.zero_le n) (List.forall_mem_nil _)
  | cons s rest ih => rw [levelsOf_cons_le_iff, ih, List.forall_mem_cons]

theorem sectionsAtDepth_append (depth : Nat) (first second : List Section) :
    sectionsAtDepth depth (first ++ second)
      = sectionsAtDepth depth first ++ sectionsAtDepth depth second := by
  induction depth generalizing first second with
  | zero => rfl
  | succ depth ih => rw [sectionsAtDepth, List.flatMap_append, ih, sectionsAtDepth, sectionsAtDepth]

end Rubric
