/-
  Rubric.Proofs.Editor.Positional

  The rule on a line, by position.

  The search for the rule on a line goes down into the first section that the line
  belongs to, and never comes back: where the rule of that section has no table, or
  none of the sections below is on the line, there is no rule. This gives away
  nothing as long as every section stands on lines of its own, below its heading and
  inside of the section above. What is found is then the one pair of a section and
  an entry at the same path that has the line in its heading.
-/
import Rubric.Proofs.Editor.Explained
import Rubric.Proofs.Outline.Lines
import Rubric.Proofs.Outline.Path

namespace Rubric

/-! ## Naming entries by paths -/

/-- The entry at a path below an entry, which itself is at the empty path. -/
def entryBelow? (entry : String × Rule) : List Nat → Option (String × Rule)
  | [] => some entry
  | i :: path => (entry.2.sections.getD [])[i]?.bind fun next => entryBelow? next path

/-- The entry at a path of a table. -/
def entryAt? (table : List (String × Rule)) : List Nat → Option (String × Rule)
  | [] => none
  | i :: path => table[i]?.bind fun entry => entryBelow? entry path

theorem entryBelow?_of_ne_nil (entry : String × Rule) {path : List Nat} (h : path ≠ []) :
    entryBelow? entry path = entryAt? (entry.2.sections.getD []) path := by
  cases path with
  | nil => exact absurd rfl h
  | cons i path => rfl

namespace Editor

/-- The pair of the section and the entry at a path. -/
def Pairing.IsAt (p : Pairing) (table : List (String × Rule)) (sections : List Section)
    (path : List Nat) : Prop :=
  sectionAt? sections path = some p.paired ∧ entryAt? table path = some (p.name, p.rule)

/-- The line belongs to the heading of the section. -/
def Pairing.IsOn (p : Pairing) (line : Nat) : Prop :=
  ∃ heading, p.paired.heading = some heading ∧ coversLine heading.position line = true

theorem coversLine_iff {span : Span} {line : Nat} :
    coversLine span line = true ↔ span.start.line ≤ line ∧ line ≤ span.stop.line := by
  simp [coversLine]

theorem Pairing.isOn_iff {p : Pairing} {line : Nat} :
    p.IsOn line ↔ (p.paired.heading.any fun h => coversLine h.position line) = true := by
  simp [IsOn, Option.any_eq_true]

/-- A pair at a path is the first one, or below the first section and the first entry, or
    among the others. -/
theorem Pairing.exists_isAt_cons_iff {p : Pairing} {name : String} {rule : Rule}
    {table : List (String × Rule)} {s : Section} {sections : List Section} :
    (∃ path, p.IsAt ((name, rule) :: table) (s :: sections) path) ↔
      p = ⟨name, rule, s⟩ ∨ (∃ path, p.IsAt (rule.sections.getD []) s.sections path) ∨
        ∃ path, p.IsAt table sections path := by
  constructor
  · rintro ⟨path, hs, hentry⟩
    cases path with
    | nil => exact nomatch hs
    | cons i path =>
      cases i with
      | succ i => exact Or.inr (Or.inr ⟨i :: path, hs, hentry⟩)
      | zero =>
        replace hs : s.at? path = some p.paired := hs
        replace hentry : entryBelow? (name, rule) path = some (p.name, p.rule) := hentry
        by_cases hpath : path = []
        · subst hpath
          obtain rfl := Option.some.inj hs
          obtain ⟨rfl, rfl⟩ := Prod.mk.inj (Option.some.inj hentry)
          exact Or.inl rfl
        · rw [s.at?_of_ne_nil hpath] at hs
          rw [entryBelow?_of_ne_nil _ hpath] at hentry
          exact Or.inr (Or.inl ⟨path, hs, hentry⟩)
  · rintro (rfl | ⟨path, hs, hentry⟩ | ⟨path, hs, hentry⟩)
    · exact ⟨[0], rfl, rfl⟩
    · have hpath : path ≠ [] := by
        rintro rfl
        exact nomatch hs
      refine ⟨0 :: path, ?_, ?_⟩
      · exact (s.at?_of_ne_nil hpath).trans hs
      · exact (entryBelow?_of_ne_nil _ hpath).trans hentry
    · cases path with
      | nil => exact nomatch hs
      | cons i path => exact ⟨(i + 1) :: path, hs, hentry⟩

/-! ## Lines of pairs -/

/-- The heading of a section at some path is on the lines that the sections at the top
    divide up. -/
theorem line_of_sectionAt? {lo hi line : Nat} {sections : List Section} {path : List Nat}
    {x : Section} {heading : Heading}
    (hsections : Within lo hi (sections.map Section.lines)) (hlaid : ∀ s ∈ sections, s.LaidOut)
    (hx : sectionAt? sections path = some x) (hheading : x.heading = some heading)
    (hline : coversLine heading.position line = true) : lo ≤ line ∧ line < hi := by
  induction path generalizing sections lo hi with
  | nil => exact nomatch hx
  | cons i path ih =>
    obtain ⟨s, hs, hx⟩ := sectionAt?_cons_eq_some_iff.1 hx
    have hmem := List.mem_of_getElem? hs
    obtain ⟨hlo, -, hhi⟩ := hsections.of_mem (List.mem_map_of_mem hmem)
    obtain ⟨hown, hstart, hforward, hbelow, hchildren⟩ := hlaid s hmem
    rename Heading => own
    simp only [Section.lines, Span.lines] at hlo hhi
    by_cases hpath : path = []
    · subst hpath
      obtain rfl := Option.some.inj hx
      obtain rfl := Option.some.inj (hown.symm.trans hheading)
      have hle := hbelow.le
      rw [coversLine_iff] at hline
      omega
    · -- A section further down is on lines after the heading of `s`.
      rw [s.at?_of_ne_nil hpath] at hx
      have hinside := ih hbelow hchildren hx
      omega

theorem Pairing.IsAt.line {lo hi line : Nat} {table : List (String × Rule)}
    {sections : List Section} {path : List Nat} {p : Pairing} (hp : p.IsAt table sections path)
    (hon : p.IsOn line) (hsections : Within lo hi (sections.map Section.lines))
    (hlaid : ∀ s ∈ sections, s.LaidOut) : lo ≤ line ∧ line < hi := by
  obtain ⟨heading, hheading, hline⟩ := hon
  exact line_of_sectionAt? hsections hlaid hp.1 hheading hline

/-- Which lines a pair at some path can be on: those of the heading if it is the first pair,
    those behind the heading if it is below, and those behind the section otherwise. -/
theorem Pairing.exists_isAt_cons_and_isOn_iff {lo hi line : Nat} {p : Pairing} {name : String}
    {rule : Rule} {table : List (String × Rule)} {s : Section} {rest : List Section}
    {heading : Heading} (hheading : s.heading = some heading)
    (hsections : Within lo hi ((s :: rest).map Section.lines))
    (hlaid : ∀ t ∈ s :: rest, t.LaidOut) :
    (∃ path, p.IsAt ((name, rule) :: table) (s :: rest) path) ∧ p.IsOn line ↔
      p = ⟨name, rule, s⟩ ∧ coversLine heading.position line = true ∨
      ((∃ path, p.IsAt (rule.sections.getD []) s.sections path) ∧ p.IsOn line) ∧
        heading.position.stop.line < line ∧ line ≤ s.position.stop.line ∨
      ((∃ path, p.IsAt table rest path) ∧ p.IsOn line) ∧ s.position.stop.line < line := by
  obtain ⟨-, -, hafter⟩ := within_cons.1 hsections
  rw [List.forall_mem_cons] at hlaid
  obtain ⟨hown, hstart, hforward, hbelow, hchildren⟩ := hlaid.1
  obtain rfl := Option.some.inj (hheading.symm.trans hown)
  rw [exists_isAt_cons_iff]
  constructor
  · rintro ⟨rfl | ⟨path, hp⟩ | ⟨path, hp⟩, hon⟩
    · rw [isOn_iff, hheading, Option.any_some] at hon
      exact Or.inl ⟨rfl, hon⟩
    · obtain ⟨hlo, hhi⟩ := hp.line hon hbelow hchildren
      exact Or.inr (Or.inl ⟨⟨⟨path, hp⟩, hon⟩, hlo, Nat.le_of_lt_succ hhi⟩)
    · obtain ⟨hlo, -⟩ := hp.line hon hafter hlaid.2
      exact Or.inr (Or.inr ⟨⟨⟨path, hp⟩, hon⟩, hlo⟩)
  · rintro (⟨rfl, hon⟩ | ⟨⟨hp, hon⟩, -⟩ | ⟨⟨hp, hon⟩, -⟩)
    · exact ⟨Or.inl rfl, _, hheading, hon⟩
    · exact ⟨Or.inr (Or.inl hp), hon⟩
    · exact ⟨Or.inr (Or.inr hp), hon⟩

/-! ## The search -/

theorem pairingAt_nil_table (line : Nat) (sections : List Section) :
    pairingAt line [] sections = none := by
  simp [pairingAt]

theorem pairingAt_nil (line : Nat) (table : List (String × Rule)) :
    pairingAt line table [] = none := by
  simp [pairingAt]

/-- A rule without a table is as good as one with an empty table. -/
theorem pairingAt_cons_getD (line : Nat) (name : String) (rule : Rule)
    (table : List (String × Rule)) (s : Section) (rest : List Section) :
    pairingAt line ((name, rule) :: table) (s :: rest)
      = if s.heading.any fun h => coversLine h.position line then some ⟨name, rule, s⟩
        else if coversLine s.position line then
          pairingAt line (rule.sections.getD []) s.sections
        else pairingAt line table rest := by
  rw [pairingAt_cons]
  cases rule.sections with
  | none => simp [pairingAt_nil_table]
  | some below => rfl

/-- What the search finds among sections that stand on lines one after another. Where it
    goes down or goes on, the pair is not elsewhere, because the line is not. -/
theorem pairingAt_eq_some_iff {lo hi line : Nat} {table : List (String × Rule)}
    {sections : List Section} (hsections : Within lo hi (sections.map Section.lines))
    (hlaid : ∀ s ∈ sections, s.LaidOut) (p : Pairing) :
    pairingAt line table sections = some p ↔
      (∃ path, p.IsAt table sections path) ∧ p.IsOn line := by
  induction sections using sectionsInduction generalizing table lo hi with
  | nil =>
    rw [pairingAt_nil]
    refine iff_of_false (by simp) ?_
    rintro ⟨⟨_ | ⟨i, path⟩, hp, -⟩, -⟩ <;> exact nomatch hp
  | cons s rest ihbelow ihrest =>
    cases table with
    | nil =>
      rw [pairingAt_nil_table]
      refine iff_of_false (by simp) ?_
      rintro ⟨⟨_ | ⟨i, path⟩, -, hp⟩, -⟩ <;> exact nomatch hp
    | cons entry table =>
      obtain ⟨name, rule⟩ := entry
      obtain ⟨-, -, hafter⟩ := within_cons.1 hsections
      obtain ⟨hs, hrest⟩ := List.forall_mem_cons.1 hlaid
      obtain ⟨hheading, hstart, hforward, hbelow, hchildren⟩ := hs
      rename Heading => heading
      have hstop := hbelow.le
      rw [pairingAt_cons_getD,
        Pairing.exists_isAt_cons_and_isOn_iff hheading hsections hlaid,
        ← ihbelow hbelow hchildren, ← ihrest hafter hrest, hheading, Option.any_some]
      -- The search takes the first of the three ways that the line allows, and it allows one.
      by_cases honHeading : coversLine heading.position line = true
      · have hline := coversLine_iff.1 honHeading
        have hnotBelow : ¬ heading.position.stop.line < line := by omega
        have hnotBehind : ¬ s.position.stop.line < line := by omega
        simp only [honHeading, hnotBelow, hnotBehind, if_true, Option.some.injEq, and_true,
          false_and, and_false, or_false, eq_comm]
      rw [if_neg honHeading, or_iff_right fun h => honHeading h.2]
      rw [coversLine_iff] at honHeading
      by_cases hinside : coversLine s.position line = true
      · have hline := coversLine_iff.1 hinside
        have hbelowHeading : heading.position.stop.line < line := by omega
        have hnotBehind : ¬ s.position.stop.line < line := by omega
        simp only [hinside, hbelowHeading, hline.2, hnotBehind, if_true, and_true, and_false,
          or_false]
      · have hbehind : pairingAt line table rest = some p → s.position.stop.line < line := by
          intro h
          obtain ⟨⟨_, hp⟩, hon⟩ := (ihrest hafter hrest).1 h
          exact (hp.line hon hafter hrest).1
        rw [if_neg hinside, and_iff_left_of_imp hbehind, or_iff_right]
        rw [coversLine_iff] at hinside
        rintro ⟨-, hlt, hle⟩
        omega

/-- **The rule on a line is that of the heading on it, by position.** In a document of blocks
    on lines of their own, the rule found on a line, with its name and its section, is the
    entry at the path of that section, and the line belongs to the heading of the section. On
    every other line there is none. -/
theorem ruleAt_eq_some_iff (source : String) {blocks : List Block} (hblocks : OnOwnLines blocks)
    (table : List (String × Rule)) (line : Nat) (p : Pairing) :
    ruleAt (Fold.document source blocks) table line = some p ↔
      ∃ path, (Fold.document source blocks).at? path = some p.paired ∧
        entryAt? table path = some (p.name, p.rule) ∧
        ∃ heading, p.paired.heading = some heading ∧
          coversLine heading.position (line + 1) = true := by
  obtain ⟨hsections, hlaid⟩ := Fold.document_lines source hblocks
  rw [ruleAt, pairingAt_eq_some_iff hsections hlaid]
  constructor
  · rintro ⟨⟨path, hs, hentry⟩, hon⟩
    exact ⟨path, hs, hentry, hon⟩
  · rintro ⟨path, hs, hentry, hon⟩
    exact ⟨⟨path, hs, hentry⟩, hon⟩

/-- A heading that is underlined takes three lines, and its rule is found on each of them. The
    section below it has the rule below, and the one after that has none. -/
theorem rules_below_underlined_heading :
    let source := "Guide\nfor all\n=======\n\n## Steps\n\nDo it.\n\n## More\n"
    let span (first start last stop : Nat) : Span := ⟨⟨first, 1, start⟩, ⟨last, 9, stop⟩⟩
    let blocks : List Block :=
      [.heading ⟨1, "Guide\nfor all", span 1 0 3 21⟩, .heading ⟨2, "Steps", span 5 23 5 31⟩,
        .paragraph ⟨"Do it.", span 7 33 7 39⟩, .heading ⟨2, "More", span 9 41 9 48⟩]
    let document := Fold.document source blocks
    let steps : Rule := {}
    let guide : Rule := { sections := some [("steps", steps)] }
    OnOwnLines blocks ∧
      (∃ s, ruleAt document [("guide", guide)] 2 = some ⟨"guide", guide, s⟩) ∧
      (∃ s, ruleAt document [("guide", guide)] 4 = some ⟨"steps", steps, s⟩) ∧
      ruleAt document [("guide", guide)] 8 = none := by
  intro source span blocks document steps guide
  have hblocks : OnOwnLines blocks :=
    .of_agree (by decide) (by decide) (by decide) (by decide)
  have hrule := ruleAt_eq_some_iff source hblocks [("guide", guide)]
  obtain ⟨top, below, more, htop, hbelow, hon, hbelowOn, hoff, hinside, hbelowOff, houtside⟩ :
      ∃ top below more, document.sections = [top] ∧ top.sections = [below, more] ∧
        (top.heading.any fun h => coversLine h.position 3) = true ∧
        (below.heading.any fun h => coversLine h.position 5) = true ∧
        (top.heading.any fun h => coversLine h.position 9) = false ∧
        coversLine top.position 9 = true ∧
        (below.heading.any fun h => coversLine h.position 9) = false ∧
        coversLine below.position 9 = false :=
    ⟨_, _, _, rfl, rfl, rfl, rfl, rfl, rfl, rfl, rfl⟩
  refine ⟨hblocks, ⟨top, ?_⟩, ⟨below, ?_⟩, ?_⟩
  · refine (hrule 2 _).2 ⟨[0], ?_, rfl, Pairing.isOn_iff.2 hon⟩
    show sectionAt? document.sections [0] = some top
    rw [htop]
    rfl
  · refine (hrule 4 _).2 ⟨[0, 0], ?_, rfl, Pairing.isOn_iff.2 hbelowOn⟩
    show sectionAt? document.sections [0, 0] = some below
    rw [htop]
    show sectionAt? top.sections [0] = some below
    rw [hbelow]
    rfl
  · rw [ruleAt, htop, pairingAt_cons_getD, hoff, hinside, hbelow]
    show pairingAt 9 [("steps", steps)] [below, more] = none
    rw [pairingAt_cons_getD, hbelowOff, houtside]
    exact pairingAt_nil_table 9 [more]

end Editor

end Rubric
