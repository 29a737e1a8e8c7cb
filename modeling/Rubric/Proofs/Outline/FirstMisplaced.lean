/-
  Rubric.Proofs.Outline.FirstMisplaced

  Which section the search for misplaced sections finds.

  `MisplacedAt` says of a path that the section at it breaks one of the two conditions,
  that it lies inside of its parent and that it starts no earlier than the section in
  front of it ends. The search finds the section at the first of these paths in reading
  order. A check of the document ends with it before it makes any call, and with a
  section that is not misplaced it never does.
-/
import Rubric.Proofs.FirstPath
import Rubric.Proofs.Outline.Nesting
import Rubric.Proofs.Conformance.Halting

namespace Rubric

/-- The path leads to a section that is not where its neighbours allow it: it reaches out of
    its parent, or starts before the section in front of it ends. Some sections at the top
    have no parent. -/
inductive MisplacedAt : (parent? : Option Span) → List Section → List Nat → Prop
  | outside {parent : Span} {sections : List Section} {i : Nat} {s : Section} :
      sections[i]? = some s → parent.contains s.position = false →
      MisplacedAt (some parent) sections [i]
  | early {parent? : Option Span} {sections : List Section} {i : Nat} {before s : Section} :
      sections[i]? = some before → sections[i + 1]? = some s → ¬ before.EndsBefore s →
      MisplacedAt parent? sections [i + 1]
  | deeper {parent? : Option Span} {sections : List Section} {i : Nat} {s : Section}
      {path : List Nat} :
      sections[i]? = some s → MisplacedAt (some s.position) s.sections path →
      MisplacedAt parent? sections (i :: path)

/-- The path leads to a misplaced section of the document. -/
def Document.MisplacedAt (document : Document) (path : List Nat) : Prop :=
  Rubric.MisplacedAt none document.sections path

/-! ## Paths of misplaced sections -/

variable {parent? : Option Span} {previousEnd : Option Nat} {s : Section}
  {sections rest : List Section} {i : Nat} {path : List Nat}

theorem not_misplacedAt_nil : ¬ MisplacedAt parent? sections [] := nofun

/-- The first section has none in front of it. -/
theorem misplacedAt_zero_cons_iff :
    MisplacedAt parent? (s :: rest) (0 :: path) ↔
      (path = [] ∧ ∃ parent ∈ parent?, parent.contains s.position = false) ∨
        MisplacedAt (some s.position) s.sections path := by
  constructor
  · intro h
    cases h with
    | outside hs hout =>
      obtain rfl := Option.some.inj hs
      exact .inl ⟨rfl, _, rfl, hout⟩
    | deeper hs hbelow =>
      obtain rfl := Option.some.inj hs
      exact .inr hbelow
  · rintro (⟨rfl, parent, hparent, hout⟩ | hbelow)
    · obtain rfl : parent? = some parent := hparent
      exact .outside rfl hout
    · exact .deeper rfl hbelow

/-- Of the sections behind the first one only the next has it in front. -/
theorem misplacedAt_succ_cons_iff :
    MisplacedAt parent? (s :: rest) ((i + 1) :: path) ↔
      MisplacedAt parent? rest (i :: path) ∨
        (i = 0 ∧ path = [] ∧ ∃ next ∈ rest.head?, ¬ s.EndsBefore next) := by
  constructor
  · intro h
    cases h with
    | outside hs hout => exact .inl (.outside hs hout)
    | @early _ _ _ before next hbefore hnext hearly =>
      rw [List.getElem?_cons_succ] at hnext
      cases i with
      | zero =>
        obtain rfl := Option.some.inj hbefore
        exact .inr ⟨rfl, rfl, next, List.head?_eq_getElem? ▸ hnext, hearly⟩
      | succ i => exact .inl (.early hbefore hnext hearly)
    | deeper hs hbelow => exact .inl (.deeper hs hbelow)
  · rintro (h | ⟨rfl, rfl, next, hnext, hearly⟩)
    · cases h with
      | outside hs hout => exact .outside hs hout
      | early hbefore hnext hearly => exact .early hbefore hnext hearly
      | deeper hs hbelow => exact .deeper hs hbelow
    · exact .early rfl (List.head?_eq_getElem? ▸ hnext) hearly

/-- As `MisplacedAt`, with something in front of the first section that ends at
    `previousEnd`. -/
def MisplacedAfter (parent? : Option Span) (previousEnd : Option Nat) (sections : List Section)
    (path : List Nat) : Prop :=
  MisplacedAt parent? sections path ∨
    (path = [0] ∧ ∃ s ∈ sections.head?, s.startsBefore previousEnd = true)

theorem misplacedAfter_none_iff :
    MisplacedAfter parent? none sections path ↔ MisplacedAt parent? sections path := by
  simp [MisplacedAfter, Section.startsBefore]

theorem not_misplacedAfter_nil : ¬ MisplacedAfter parent? previousEnd sections [] := by
  rintro (h | ⟨h, -⟩)
  · exact not_misplacedAt_nil h
  · exact nomatch h

theorem misplacedAfter_zero_cons_iff :
    MisplacedAfter parent? previousEnd (s :: rest) (0 :: path) ↔
      (path = [] ∧ ((∃ parent ∈ parent?, parent.contains s.position = false) ∨
        s.startsBefore previousEnd = true)) ∨
      MisplacedAt (some s.position) s.sections path := by
  simp only [MisplacedAfter, misplacedAt_zero_cons_iff, List.cons.injEq, true_and, List.head?_cons,
    Option.mem_some_iff, exists_eq_left']
  rw [or_right_comm, ← and_or_left]

theorem misplacedAfter_succ_cons_iff :
    MisplacedAfter parent? previousEnd (s :: rest) ((i + 1) :: path) ↔
      MisplacedAfter parent? (some s.position.stop.offset) rest (i :: path) := by
  have hnext : ∀ next : Section, ¬ s.EndsBefore next ↔
      next.startsBefore (some s.position.stop.offset) = true := fun next => by
    rw [← Section.startsBefore_some_eq_false_iff, Bool.not_eq_false]
  simp [MisplacedAfter, misplacedAt_succ_cons_iff, hnext, and_assoc]

/-! ## What the search finds -/

/-- A search that takes sections one by one, looks at each before it goes down into it, and
    takes the end of each on to the next, finds the section at the first path to a misplaced
    one. -/
theorem search_findsFirst {search : Option Nat → List Section → Option Section}
    (hnil : ∀ previousEnd, search previousEnd [] = none)
    (hcons : ∀ previousEnd s rest, search previousEnd (s :: rest) =
      if (∃ parent ∈ parent?, parent.contains s.position = false) ∨
          s.startsBefore previousEnd = true then some s
      else s.misplaced?.or (search (some s.position.stop.offset) rest))
    (hbelow : ∀ s ∈ sections, FindsFirst (MisplacedAt (some s.position) s.sections)
      (fun path x => s.at? path = some x) s.misplaced?) :
    FindsFirst (MisplacedAfter parent? previousEnd sections)
      (fun path x => sectionAt? sections path = some x) (search previousEnd sections) := by
  induction sections generalizing previousEnd with
  | nil =>
    rw [hnil]
    rintro path (h | ⟨-, s, hs, -⟩)
    · cases h <;> simp at *
    · exact nomatch hs
  | cons s rest ih =>
    rw [List.forall_mem_cons] at hbelow
    have hrest : FindsFirst (Behind (MisplacedAfter parent? previousEnd (s :: rest)))
        (fun path x => Behind (fun q => sectionAt? (s :: rest) q = some x) path)
        (search (some s.position.stop.offset) rest) := by
      refine (ih hbelow.2).imp (fun path => ?_) fun path x hpath hx => ?_
      · cases path with
        | nil => exact iff_of_false not_misplacedAfter_nil id
        | cons i path => exact misplacedAfter_succ_cons_iff.symm
      · cases path with
        | nil => exact not_misplacedAfter_nil hpath
        | cons i path => exact hx
    have hfirst : FindsFirst (fun path => MisplacedAfter parent? previousEnd (s :: rest) (0 :: path))
        (fun path x => sectionAt? (s :: rest) (0 :: path) = some x)
        (if (∃ parent ∈ parent?, parent.contains s.position = false) ∨
          s.startsBefore previousEnd = true then some s else s.misplaced?) := by
      split
      next hs => exact .root (misplacedAfter_zero_cons_iff.2 (.inl ⟨rfl, hs⟩)) rfl
      next hs =>
        refine hbelow.1.imp (fun path => ?_) fun path x _ hx => hx
        rw [misplacedAfter_zero_cons_iff, or_iff_right fun h => hs h.2]
    have hfound := FindsFirst.cons not_misplacedAfter_nil hfirst hrest
    rw [hcons]
    split at hfound
    next hs => rwa [if_pos hs]
    next hs => rwa [if_neg hs]

/-- Below a section the search finds the section at the first path to a misplaced one. -/
theorem Section.misplaced?_findsFirst (s : Section) :
    FindsFirst (MisplacedAt (some s.position) s.sections) (fun path x => s.at? path = some x)
      s.misplaced? := by
  induction s using Section.childInduction with
  | step s ih =>
    have hcons : ∀ previousEnd child rest,
        misplacedChild? s.position previousEnd (child :: rest) =
          if (∃ parent ∈ some s.position, parent.contains child.position = false) ∨
              child.startsBefore previousEnd = true then some child
          else child.misplaced?.or
            (misplacedChild? s.position (some child.position.stop.offset) rest) := by
      intro previousEnd child rest
      rw [misplacedChild?]
      simp
    have hnil : ∀ previousEnd, misplacedChild? s.position previousEnd [] = none := by
      intro previousEnd
      rw [misplacedChild?]
    rw [misplaced?_eq]
    refine (search_findsFirst hnil hcons ih).imp (fun path => misplacedAfter_none_iff) ?_
    intro path x hpath hx
    cases path with
    | nil => exact absurd hpath not_misplacedAfter_nil
    | cons i path => exact hx

theorem Document.misplaced?_findsFirst (document : Document) :
    FindsFirst document.MisplacedAt (fun path x => document.at? path = some x)
      document.misplaced? := by
  have hcons : ∀ previousEnd s rest, misplacedTop? previousEnd (s :: rest) =
      if (∃ parent ∈ (none : Option Span), parent.contains s.position = false) ∨
          s.startsBefore previousEnd = true then some s
      else s.misplaced?.or (misplacedTop? (some s.position.stop.offset) rest) := by
    intro previousEnd s rest
    rw [misplacedTop?]
    simp
  refine (search_findsFirst (fun _ => rfl) hcons fun s _ => s.misplaced?_findsFirst).imp ?_ ?_
  · exact fun path => misplacedAfter_none_iff
  · exact fun path x _ hx => hx

/-! ## What a check makes of it -/

theorem checkDocument_of_misplaced? {document : Document} {s : Section}
    (h : document.misplaced? = some s) (checker : Checker) (table : List (String × Rule)) :
    checkDocument checker table document
      = Run.halt (.malformedTree (s.label?.getD "") s.position.start.line) := by
  rw [checkDocument, examineDocument, h]

/-- **The search finds the first section in reading order that is misplaced, and nothing
    else.** If no section reaches out of its parent or starts before the one in front of it
    ends, it finds none, and no check finds the document malformed. Otherwise it finds the
    first of these sections, and every check ends with the heading and the line of that
    section before it makes a call. -/
theorem misplaced?_is_first_in_reading_order (document : Document) :
    (document.misplaced? = none ↔ ∀ path, ¬ document.MisplacedAt path) ∧
    (∀ s, document.misplaced? = some s ↔
      ∃ path, IsFirst document.MisplacedAt path ∧ document.at? path = some s) ∧
    ∀ checker table,
      ((∀ path, ¬ document.MisplacedAt path) →
        (checkDocument checker table document).WellFormed) ∧
      ∀ path s, IsFirst document.MisplacedAt path → document.at? path = some s →
        (checkDocument checker table document).calls = [] ∧
        (checkDocument checker table document).result
          = .error (.malformedTree (s.label?.getD "") s.position.start.line) := by
  have hfinds := document.misplaced?_findsFirst
  have hsome : ∀ s, document.misplaced? = some s ↔
      ∃ path, IsFirst document.MisplacedAt path ∧ document.at? path = some s := by
    intro s
    exact hfinds.eq_some_iff fun _ _ _ hx hy => Option.some.inj (hx.symm.trans hy)
  refine ⟨hfinds.eq_none_iff, hsome, fun checker table => ⟨fun h => ?_, ?_⟩⟩
  · exact checkDocument_wellFormed checker table (hfinds.eq_none_iff.2 h)
  · intro path s hfirst hs
    rw [checkDocument_of_misplaced? ((hsome s).2 ⟨path, hfirst, hs⟩)]
    exact ⟨rfl, rfl⟩

/-- The second child of `A` starts before the first one ends, and `B` before `A` ends. The
    child comes first. With `B` and the first child alone nothing is misplaced. -/
theorem inner_overlap_comes_first :
    let s (title : String) (line start stop : Nat) (sections : List Section) : Section :=
      { heading := some ⟨1, title, ⟨⟨line, 1, start⟩, ⟨line, 2, start + 1⟩⟩⟩, sections,
        position := ⟨⟨line, 1, start⟩, ⟨line + 1, 1, stop⟩⟩ }
    let early := s "A.2" 3 4 9 []
    let document : Document :=
      { sections := [s "A" 1 0 10 [s "A.1" 2 2 5 [], early], s "B" 5 8 12 []] }
    let nested : Document := { sections := [s "A.1" 2 2 5 [], s "B" 5 8 12 [s "B.1" 6 8 12 []]] }
    let table : List (String × Rule) := [("a", { instructions := ["Be brief."] })]
    (∃ path, IsFirst document.MisplacedAt path ∧ document.at? path = some early) ∧
    (checkDocument .skip table document).calls = [] ∧
    (checkDocument .skip table document).result = .error (.malformedTree "A.2" 3) ∧
    (∀ path, ¬ nested.MisplacedAt path) ∧ (checkDocument .skip table nested).WellFormed := by
  intro s early document nested table
  obtain ⟨-, hsome, hcheck⟩ := misplaced?_is_first_in_reading_order document
  obtain ⟨path, hfirst, hearly⟩ := (hsome early).1 rfl
  obtain ⟨hcalls, hresult⟩ := (hcheck .skip table).2 path early hfirst hearly
  obtain ⟨hnone, -, hnested⟩ := misplaced?_is_first_in_reading_order nested
  have hplaced : ∀ path, ¬ nested.MisplacedAt path := hnone.1 rfl
  exact ⟨⟨path, hfirst, hearly⟩, hcalls, hresult, hplaced, (hnested .skip table).1 hplaced⟩

end Rubric
