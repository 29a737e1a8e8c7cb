/-
  Rubric.Proofs.Outline.Nesting

  What it says of a document that no section is misplaced.

  The search for misplaced sections looks at a section, its parent and the section
  right before it. Lying inside is passed on from parent to parent, so a section lies
  inside of all that it is below. Not overlapping is passed on from neighbour to
  neighbour only over sections that do not end before they start: behind one that
  does, a section may start anywhere, even inside of one further in front.
-/
import Mathlib.Data.List.Chain
import Rubric.Outline.Misplaced
import Rubric.Proofs.Outline.Extent
import Rubric.Proofs.Outline.Path

namespace Rubric

/-! ## Neighbours -/

/-- The section ends where the other one starts, or before. -/
def Section.EndsBefore (s other : Section) : Prop :=
  s.position.stop.offset ≤ other.position.start.offset

/-- The section does not end before it starts. -/
def Section.IsForward (s : Section) : Prop :=
  s.position.start.offset ≤ s.position.stop.offset

theorem Section.startsBefore_some_eq_false_iff {s other : Section} :
    s.startsBefore (some other.position.stop.offset) = false ↔ other.EndsBefore s := by
  rw [startsBefore, decide_eq_false_iff_not, Nat.not_lt]
  exact Iff.rfl

/-- A search that takes sections one by one, and the end of each on to the next, finds none
    iff each is all right by itself and ends before the next one starts. -/
theorem search_eq_none_iff {search : Option Nat → List Section → Option Section}
    {right : Section → Prop} (hnil : ∀ previousEnd, search previousEnd [] = none)
    (hcons : ∀ previousEnd s rest, search previousEnd (s :: rest) = none ↔
      s.startsBefore previousEnd = false ∧ right s ∧
        search (some s.position.stop.offset) rest = none)
    {previousEnd : Option Nat} {sections : List Section} :
    search previousEnd sections = none ↔
      (∀ s ∈ sections.head?, s.startsBefore previousEnd = false) ∧
      (∀ s ∈ sections, right s) ∧ sections.IsChain Section.EndsBefore := by
  induction sections generalizing previousEnd with
  | nil => simp [hnil]
  | cons s rest ih =>
    have hhead : (∀ t ∈ (s :: rest).head?, t.startsBefore previousEnd = false) ↔
        s.startsBefore previousEnd = false := by
      simp
    rw [hcons, ih, hhead, List.forall_mem_cons]
    cases rest with
    | nil => simp
    | cons next rest =>
      -- What the next section has to come after is the end of this one.
      have hnext : (∀ t ∈ (next :: rest).head?,
          t.startsBefore (some s.position.stop.offset) = false) ↔ s.EndsBefore next := by
        simp [Section.startsBefore_some_eq_false_iff]
      rw [hnext, List.isChain_cons_cons]
      constructor
      · rintro ⟨hearly, hright, hfollows, hrest, hchain⟩
        exact ⟨hearly, ⟨hright, hrest⟩, hfollows, hchain⟩
      · rintro ⟨hearly, ⟨hright, hrest⟩, hfollows, hchain⟩
        exact ⟨hearly, hright, hfollows, hrest, hchain⟩

/-- Nothing is misplaced below a section iff each child lies inside of it with nothing
    misplaced below, and each ends before the next one starts. -/
theorem Section.misplaced?_eq_none_iff {s : Section} :
    s.misplaced? = none ↔
      (∀ child ∈ s.sections,
        s.position.contains child.position = true ∧ child.misplaced? = none) ∧
      s.sections.IsChain Section.EndsBefore := by
  have hcons : ∀ previousEnd child rest,
      misplacedChild? s.position previousEnd (child :: rest) = none ↔
        child.startsBefore previousEnd = false ∧
        (s.position.contains child.position = true ∧ child.misplaced? = none) ∧
        misplacedChild? s.position (some child.position.stop.offset) rest = none := by
    intro previousEnd child rest
    rw [misplacedChild?]
    cases hinside : s.position.contains child.position with
    | false => simp
    | true =>
      cases hearly : child.startsBefore previousEnd with
      | true => simp
      | false => simp [Option.or_eq_none_iff]
  have hnil : ∀ previousEnd, misplacedChild? s.position previousEnd [] = none := by
    intro previousEnd
    rw [misplacedChild?]
  rw [misplaced?_eq, search_eq_none_iff hnil hcons]
  exact and_iff_right fun _ _ => rfl

/-- At the top sections are searched like children, only without a parent. -/
theorem Document.misplaced?_eq_none_iff {document : Document} :
    document.misplaced? = none ↔
      (∀ s ∈ document.sections, s.misplaced? = none) ∧
      document.sections.IsChain Section.EndsBefore := by
  have hcons : ∀ previousEnd s rest, misplacedTop? previousEnd (s :: rest) = none ↔
      s.startsBefore previousEnd = false ∧ s.misplaced? = none ∧
        misplacedTop? (some s.position.stop.offset) rest = none := by
    intro previousEnd s rest
    rw [misplacedTop?]
    cases hearly : s.startsBefore previousEnd with
    | true => simp
    | false => simp [Option.or_eq_none_iff]
  rw [misplaced?, search_eq_none_iff (fun _ => rfl) hcons]
  exact and_iff_right fun _ _ => rfl

/-! ## From parent to parent -/

/-- Inside of a section with nothing misplaced below lies all that is below it. -/
theorem Section.contains_of_at? {s x : Section} {path : List Nat} (h : s.misplaced? = none)
    (hx : s.at? path = some x) :
    s.position.contains x.position = true ∧ x.misplaced? = none := by
  -- Along the path: every step goes to a child, which lies inside of its parent.
  induction path generalizing s with
  | nil =>
    obtain rfl : s = x := by simpa using hx
    exact ⟨Span.contains_refl s.position, h⟩
  | cons i path ih =>
    obtain ⟨child, hchild, hbelow⟩ := Option.bind_eq_some_iff.1 hx
    have hmem : child ∈ s.sections := List.mem_of_getElem? hchild
    obtain ⟨hinside, hplaced⟩ := (misplaced?_eq_none_iff.1 h).1 child hmem
    obtain ⟨hdeeper, hlast⟩ := ih hplaced hbelow
    exact ⟨Span.contains_trans hinside hdeeper, hlast⟩

/-! ## From neighbour to neighbour -/

/-- Of some sections that each end before the next one starts, an earlier one ends before a
    later one starts if none in between ends before it starts. -/
theorem endsBefore_of_isChain {sections : List Section}
    (h : sections.IsChain Section.EndsBefore) {i j : Nat} (hij : i < j) {x y : Section}
    (hx : sections[i]? = some x) (hy : sections[j]? = some y)
    (hbetween : ∀ k z, i < k → k < j → sections[k]? = some z → z.IsForward) :
    x.EndsBefore y := by
  -- From `j` back to `i`: the section before `y` starts after `x`, and `y` after that one.
  induction j, hij using Nat.le_induction generalizing y with
  | base =>
    obtain ⟨hi, rfl⟩ := List.getElem?_eq_some_iff.1 hx
    obtain ⟨hj, rfl⟩ := List.getElem?_eq_some_iff.1 hy
    exact List.isChain_iff_getElem.1 h i hj
  | succ j hij ih =>
    obtain ⟨hj, rfl⟩ := List.getElem?_eq_some_iff.1 hy
    have hlast : sections[j]? = some sections[j] := List.getElem?_eq_getElem (by omega)
    have hforward : sections[j].IsForward := hbetween j _ hij (by omega) hlast
    have hfirst : x.EndsBefore sections[j] :=
      ih hlast fun k z hik hkj => hbetween k z hik (by omega)
    have hnext : sections[j].EndsBefore sections[j + 1] := List.isChain_iff_getElem.1 h j hj
    unfold Section.EndsBefore Section.IsForward at *
    omega

/-- No section that stands between the two paths, below where they part, ends before it
    starts. -/
def ForwardBetween (sections : List Section) (p q : List Nat) : Prop :=
  ∀ above i j k z, above ++ [i] <+: p → above ++ [j] <+: q → i < k → k < j →
    sectionAt? sections (above ++ [k]) = some z → z.IsForward

/-- A section ends before another one starts that comes later and is not below it. -/
theorem endsBefore_of_path_lt {sections : List Section}
    (hplaced : ∀ s ∈ sections, s.misplaced? = none)
    (hchain : sections.IsChain Section.EndsBefore) {p q : List Nat} {x y : Section}
    (hx : sectionAt? sections p = some x) (hy : sectionAt? sections q = some y)
    (hlt : p < q) (hbelow : ¬ p <+: q) (hbetween : ForwardBetween sections p q) :
    x.EndsBefore y := by
  -- Down the common part of the paths to the siblings where they part.
  induction p generalizing sections q with
  | nil => exact absurd List.nil_prefix hbelow
  | cons i p ih =>
    cases q with
    | nil => exact absurd hlt (List.not_lt_nil _)
    | cons j q =>
      obtain ⟨s, hs, hxs⟩ := sectionAt?_cons_eq_some_iff.1 hx
      obtain ⟨t, ht, hyt⟩ := sectionAt?_cons_eq_some_iff.1 hy
      rcases List.cons_lt_cons_iff.1 hlt with hij | ⟨rfl, hpq⟩
      · have hsiblings : s.EndsBefore t := by
          refine endsBefore_of_isChain hchain hij hs ht fun k z hik hkj hz => ?_
          refine hbetween [] i j k z ?_ ?_ hik hkj ?_
          · exact List.prefix_append [i] p
          · exact List.prefix_append [j] q
          · exact sectionAt?_cons_eq_some_iff.2 ⟨z, hz, rfl⟩
        have hsmem : s ∈ sections := List.mem_of_getElem? hs
        have htmem : t ∈ sections := List.mem_of_getElem? ht
        have hxinside := Span.contains_iff.1 (Section.contains_of_at? (hplaced s hsmem) hxs).1
        have hyinside := Span.contains_iff.1 (Section.contains_of_at? (hplaced t htmem) hyt).1
        unfold Section.EndsBefore at *
        omega
      · obtain rfl : s = t := Option.some.inj (hs.symm.trans ht)
        have hpnil : p ≠ [] := by
          rintro rfl
          exact hbelow (List.prefix_append [i] q)
        have hqnil : q ≠ [] := by
          rintro rfl
          exact List.not_lt_nil _ hpq
        rw [Section.at?_of_ne_nil s hpnil] at hxs
        rw [Section.at?_of_ne_nil s hqnil] at hyt
        obtain ⟨hchildren, hfollow⟩ :=
          Section.misplaced?_eq_none_iff.1 (hplaced s (List.mem_of_getElem? hs))
        have hbelow' : ¬ p <+: q := fun h => hbelow (List.cons_prefix_cons.2 ⟨rfl, h⟩)
        refine ih (fun child hchild => (hchildren child hchild).2) hfollow hxs hyt hpq hbelow' ?_
        intro above a b k z ha hb hak hkb hz
        refine hbetween (i :: above) a b k z ?_ ?_ hak hkb ?_
        · exact List.cons_prefix_cons.2 ⟨rfl, ha⟩
        · exact List.cons_prefix_cons.2 ⟨rfl, hb⟩
        · rw [List.cons_append, sectionAt?_cons_eq_some_iff]
          refine ⟨s, hs, ?_⟩
          rw [Section.at?_of_ne_nil s (by simp), hz]

/-! ## Whole documents -/

/-- Where every section below lies inside of its parent, and none starts before the one in
    front of it ends, nothing is misplaced. -/
theorem Section.misplaced?_eq_none_of_at? {s : Section}
    (h : ∀ path x, s.at? path = some x →
      (∀ child ∈ x.sections, x.position.contains child.position = true) ∧
      x.sections.IsChain Section.EndsBefore) : s.misplaced? = none := by
  induction s using Section.childInduction with
  | step s ih =>
    obtain ⟨hinside, hchain⟩ := h [] s rfl
    refine misplaced?_eq_none_iff.2 ⟨fun child hchild => ⟨hinside child hchild, ?_⟩, hchain⟩
    obtain ⟨i, hi⟩ := List.mem_iff_getElem?.1 hchild
    refine ih child hchild fun path x hx => ?_
    exact h (i :: path) x (Option.bind_eq_some_iff.2 ⟨child, hi, hx⟩)

/-- Between a section and the next one stands none. -/
theorem forwardBetween_next (sections : List Section) (above : List Nat) (i : Nat) :
    ForwardBetween sections (above ++ [i]) (above ++ [i + 1]) := by
  intro common a b k z ha hb hak hkb _
  exfalso
  rcases List.prefix_concat_iff.1 ha with hsame | hshort
  · obtain ⟨rfl, hi⟩ := List.append_inj' hsame rfl
    rw [List.prefix_append_right_inj, List.cons_prefix_cons] at hb
    obtain rfl := List.singleton_inj.1 hi
    omega
  · rcases List.prefix_concat_iff.1 hb with hsame | hshort'
    · have hle := hshort.length_le
      have hlength := congrArg List.length hsame
      simp only [List.length_append, List.length_singleton] at hle hlength
      omega
    · -- Of one length, the two beginnings of `above` are the same.
      have hlength : (common ++ [a]).length = (common ++ [b]).length := by simp
      have hsame := (List.prefix_of_prefix_length_le hshort hshort' hlength.le).eq_of_length hlength
      obtain rfl : a = b := by simpa using hsame
      omega

/-- **No section is misplaced iff sections nest, and are in order up to such as end before
    they start.** A section lies inside of all that it is below. Of two sections of which
    neither is below the other, the one that comes first ends before the other one starts,
    unless a section that stands between them, among the siblings where their paths part,
    ends before it starts. -/
theorem misplaced?_eq_none_iff_nested_in_order (document : Document) :
    document.misplaced? = none ↔
      ∀ p q x y, document.at? p = some x → document.at? q = some y →
        (p <+: q → x.position.contains y.position = true) ∧
        (p < q → ¬ p <+: q → ForwardBetween document.sections p q → x.EndsBefore y) := by
  rw [Document.misplaced?_eq_none_iff]
  constructor
  · rintro ⟨hplaced, hchain⟩ p q x y hx hy
    refine ⟨?_, endsBefore_of_path_lt hplaced hchain hx hy⟩
    rintro ⟨below, rfl⟩
    cases p with
    | nil => exact absurd hx (by simp [Document.at?])
    | cons i p =>
      obtain ⟨s, hs, hxs⟩ := sectionAt?_cons_eq_some_iff.1 hx
      have hxplaced := (Section.contains_of_at? (hplaced s (List.mem_of_getElem? hs)) hxs).2
      unfold Document.at? at hx hy
      rw [sectionAt?_append (List.cons_ne_nil i p), hx, Option.bind_some] at hy
      exact (Section.contains_of_at? hxplaced hy).1
  · intro h
    have hnext : ∀ above i x y, document.at? (above ++ [i]) = some x →
        document.at? (above ++ [i + 1]) = some y → x.EndsBefore y := by
      intro above i x y hx hy
      have hlt : above ++ [i] < above ++ [i + 1] :=
        List.append_left_lt (List.cons_lt_cons_iff.2 (Or.inl (Nat.lt_succ_self i)))
      have hbelow : ¬ above ++ [i] <+: above ++ [i + 1] := by
        rw [List.prefix_append_right_inj, List.cons_prefix_cons]
        omega
      exact (h _ _ x y hx hy).2 hlt hbelow (forwardBetween_next _ above i)
    refine ⟨fun s hs => ?_, ?_⟩
    · obtain ⟨i, hi⟩ := List.mem_iff_getElem?.1 hs
      refine Section.misplaced?_eq_none_of_at? fun path x hx => ?_
      -- A child of `x` is at the path of `x` with one more number.
      have hxat : document.at? (i :: path) = some x :=
        sectionAt?_cons_eq_some_iff.2 ⟨s, hi, hx⟩
      have hchild : ∀ k child, x.sections[k]? = some child →
          document.at? ((i :: path) ++ [k]) = some child := by
        intro k child hk
        unfold Document.at? at hxat ⊢
        rw [sectionAt?_append (List.cons_ne_nil i path), hxat]
        simpa [Section.at?] using hk
      refine ⟨fun child hmem => ?_, List.isChain_iff_getElem.2 fun k hk => ?_⟩
      · obtain ⟨k, hk⟩ := List.mem_iff_getElem?.1 hmem
        exact (h _ _ x child hxat (hchild k child hk)).1 (List.prefix_append _ _)
      · exact hnext (i :: path) k _ _ (hchild k _ (List.getElem?_eq_getElem (by omega)))
          (hchild (k + 1) _ (List.getElem?_eq_getElem hk))
    · refine List.isChain_iff_getElem.2 fun k hk => ?_
      refine hnext [] k _ _ ?_ ?_
      · exact sectionAt?_cons_eq_some_iff.2 ⟨_, List.getElem?_eq_getElem (by omega), rfl⟩
      · exact sectionAt?_cons_eq_some_iff.2 ⟨_, List.getElem?_eq_getElem hk, rfl⟩

/-- Behind a section that ends before it starts, the third section starts inside of the first
    one, and none of the three is misplaced. -/
theorem overlap_behind_backward_section :
    let s (start stop : Nat) : Section := { position := ⟨⟨1, 1, start⟩, ⟨1, 1, stop⟩⟩ }
    let document : Document := { sections := [s 0 10, s 20 5, s 7 8] }
    document.misplaced? = none ∧
      ¬ ∀ p q x y, document.at? p = some x → document.at? q = some y → p < q → ¬ p <+: q →
        x.EndsBefore y := by
  intro s document
  refine ⟨rfl, fun h => ?_⟩
  have hends : (s 0 10).EndsBefore (s 7 8) :=
    h [0] [2] _ _ rfl rfl (by decide) (by decide)
  exact absurd hends (by simp [Section.EndsBefore, s])

end Rubric
