/-
  Rubric.Proofs.Conformance.Located

  Where the violations of a check are.

  A violation is about the section that it is said of: it has the label of that section
  and one of its spans. Whatever a check reports is about one of the sections it came
  to. Nothing is assumed about the checker, about the rules or about the sections.
-/
import Rubric.Proofs.Conformance.Arising

namespace Rubric

/-- The section is one of some sections, or stands below one of them at some depth. -/
inductive Section.Among : Section → List Section → Prop
  | top {s : Section} {sections : List Section} : s ∈ sections → Among s sections
  | nested {s parent : Section} {sections : List Section} :
      parent ∈ sections → Among s parent.sections → Among s sections

/-- The violation is under the heading of the section and at one of its spans. -/
def Violation.IsAbout (v : Violation) (s : Section) : Prop :=
  v.heading = s.label? ∧ v.position ∈ s.spans

/-- The violation is about one of some sections, or about one below them. -/
def Violation.IsIn (v : Violation) (sections : List Section) : Prop :=
  ∃ s, s.Among sections ∧ v.IsAbout s

theorem Section.Among.mono {s : Section} {sections others : List Section} (h : s.Among sections)
    (hsub : sections ⊆ others) : s.Among others := by
  cases h with
  | top hs => exact .top (hsub hs)
  | nested hparent hs => exact .nested (hsub hparent) hs

theorem Violation.IsAbout.isIn {v : Violation} {s : Section} (h : v.IsAbout s)
    {sections : List Section} (hs : s ∈ sections) : v.IsIn sections :=
  ⟨s, .top hs, h⟩

theorem Violation.IsIn.below {v : Violation} {s : Section} (h : v.IsIn s.sections)
    {sections : List Section} (hs : s ∈ sections) : v.IsIn sections := by
  obtain ⟨t, ht, habout⟩ := h
  exact ⟨t, .nested hs ht, habout⟩

/-- What is said of a section is about it. -/
theorem Violation.Tells.isAbout {v : Violation} {s : Section} {quotable : String → Prop}
    (h : v.Tells s.label? s.spans quotable) : v.IsAbout s := by
  obtain ⟨finding, position, rfl, hposition, -⟩ := h
  exact ⟨rfl, hposition⟩

/-- What arises from a section is about it or about one below it. -/
theorem Violation.ArisesFrom.isIn {checker : Checker} {v : Violation} {r : Rule} {s : Section}
    (h : v.ArisesFrom checker r s) {sections : List Section} (hs : s ∈ sections) :
    v.IsIn sections := by
  induction h generalizing sections with
  | here htells => exact htells.isAbout.isIn hs
  | nested _ _ hchild _ ih => exact (ih hchild).below hs

/-- **Every violation is about a section of the document**: it has the label of that section
    and one of its spans. -/
theorem checkDocument_yields (checker : Checker) (table : List (String × Rule))
    (document : Document) :
    (checkDocument checker table document).Yields fun found =>
      ∀ v ∈ found, v.IsIn document.sections := by
  intro found hfound v hv
  obtain ⟨entry, -, s, hs, harises⟩ := checkDocument_arises checker table document found hfound v hv
  exact harises.isIn hs

end Rubric
