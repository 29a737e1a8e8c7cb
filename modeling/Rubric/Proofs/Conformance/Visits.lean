/-
  Rubric.Proofs.Conformance.Visits

  How often a check comes to a section with a rule, and how many calls that makes.

  Trials hold every section against every rule, and below each such pair there may be
  trials again. Still no pair comes up twice. The paths of a section and of a rule both
  grow by one step at every level, and the steps that are made at one level are all
  different: with pairs because the section is another one each time, with trials
  because the section or the rule is. So there are never more calls than pairs of a
  section and an instruction at the same depth.
-/
import Rubric.Proofs.Conformance.Tour
import Rubric.Proofs.Outline.Path
import Mathlib.Algebra.BigOperators.Group.Finset.Basic
import Mathlib.Algebra.Ring.Nat

namespace Rubric

/-! ## Naming rules by paths -/

/-- The rule at a path below a rule, which itself is at the empty path. -/
def Rule.at? (r : Rule) : List Nat → Option Rule
  | [] => some r
  | j :: path => (r.sections.getD [])[j]?.bind fun entry => entry.2.at? path

/-- The rule at a path of a table. -/
def ruleAt? (table : List (String × Rule)) : List Nat → Option Rule
  | [] => none
  | j :: path => table[j]?.bind fun entry => entry.2.at? path

theorem Rule.at?_of_ne_nil (r : Rule) {path : List Nat} (h : path ≠ []) :
    r.at? path = ruleAt? (r.sections.getD []) path := by
  cases path with
  | nil => exact absurd rfl h
  | cons j path => rfl

/-! ## What a visit is of -/

/-- A visit of a rule at a section, or of a rule below it at a section as far below. The
    calls are for the rule's instructions in their order, up to where the run came. -/
def Visit.IsOf (r : Rule) (s : Section) (v : Visit) : Prop :=
  ∃ r' s', r.at? v.rulePath = some r' ∧ s.at? v.sectionPath = some s' ∧
    v.sectionPath.length = v.rulePath.length ∧
    v.calls <+: r'.instructions.map (Call.mk s'.rawContent)

/-- A visit of a rule of a table, of which the first is number `j`, at one of some
    sections, of which the first is number `i`, or of what is below them. -/
def Visit.IsBelow (table : List (String × Rule)) (sections : List Section) (j i : Nat)
    (v : Visit) : Prop :=
  ∃ (k l : Nat) (entry : String × Rule) (s : Section) (w : Visit), table[k]? = some entry ∧
    sections[l]? = some s ∧ w.IsOf entry.2 s ∧ v = w.below (i + l) (j + k)

namespace Visit

variable {entry : String × Rule} {table : List (String × Rule)} {s : Section}
  {sections : List Section} {i j : Nat} {v w : Visit}

theorem IsOf.isBelow (h : w.IsOf entry.2 s) :
    (w.below i j).IsBelow (entry :: table) (s :: sections) j i :=
  ⟨0, 0, entry, s, w, rfl, rfl, h, rfl⟩

theorem IsBelow.of_tail_table (h : v.IsBelow table sections (j + 1) i) :
    v.IsBelow (entry :: table) sections j i := by
  obtain ⟨k, l, entry', s', w, hentry, hs, hw, rfl⟩ := h
  have hk : j + 1 + k = j + (k + 1) := by omega
  exact ⟨k + 1, l, entry', s', w, hentry, hs, hw, by rw [hk]⟩

theorem IsBelow.of_tail_sections (h : v.IsBelow table sections j (i + 1)) :
    v.IsBelow table (s :: sections) j i := by
  obtain ⟨k, l, entry', s', w, hentry, hs, hw, rfl⟩ := h
  have hl : i + 1 + l = i + (l + 1) := by omega
  exact ⟨k, l + 1, entry', s', w, hentry, hs, hw, by rw [hl]⟩

theorem IsBelow.of_singleton (h : v.IsBelow [entry] sections j i) :
    ∃ (l : Nat) (s : Section) (w : Visit), sections[l]? = some s ∧ w.IsOf entry.2 s ∧
      v = w.below (i + l) j := by
  obtain ⟨k, l, entry', s', w, hentry, hs, hw, rfl⟩ := h
  rw [List.getElem?_singleton] at hentry
  split at hentry
  · next hk =>
    obtain rfl := Option.some.inj hentry
    exact ⟨l, s', w, hs, hw, by rw [hk, Nat.add_zero]⟩
  · exact nomatch hentry

/-- A visit below an earlier section or an earlier rule is at another place. -/
theorem IsBelow.place_ne {i' j' : Nat} (h : v.IsBelow table sections j i)
    (hlt : i' < i ∨ j' < j) : (w.below i' j').place ≠ v.place := by
  obtain ⟨k, l, entry', s', w', -, -, -, rfl⟩ := h
  intro hplace
  obtain ⟨hsection, hrule⟩ := Prod.mk.inj hplace
  have hi : i' = i + l := (List.cons.inj hsection).1
  have hj : j' = j + k := (List.cons.inj hrule).1
  omega

theorem IsBelow.isAt (h : v.IsBelow table sections 0 0) :
    ∃ r s, ruleAt? table v.rulePath = some r ∧ sectionAt? sections v.sectionPath = some s ∧
      v.sectionPath.length = v.rulePath.length ∧
      v.calls <+: r.instructions.map (Call.mk s.rawContent) := by
  obtain ⟨k, l, entry', s', w, hentry, hs, ⟨r'', s'', hr'', hs'', hlength, hcalls⟩, rfl⟩ := h
  rw [Nat.zero_add, Nat.zero_add]
  refine ⟨r'', s'', ?_, ?_, congrArg (· + 1) hlength, hcalls⟩
  · exact Option.bind_eq_some_iff.2 ⟨entry', hentry, hr''⟩
  · exact sectionAt?_cons_eq_some_iff.2 ⟨s', hs, hs''⟩

/-- One level up the visits below a section and a rule are visits of them. -/
theorem IsBelow.isOf {r : Rule} (h : v.IsBelow (r.sections.getD []) s.sections 0 0) :
    v.IsOf r s := by
  have hpaths : v.rulePath ≠ [] ∧ v.sectionPath ≠ [] := by
    obtain ⟨k, l, entry', s', w, -, -, -, rfl⟩ := h
    exact ⟨List.cons_ne_nil _ _, List.cons_ne_nil _ _⟩
  obtain ⟨r', s', hr', hs', hlength, hcalls⟩ := h.isAt
  rw [← r.at?_of_ne_nil hpaths.1] at hr'
  rw [← s.at?_of_ne_nil hpaths.2] at hs'
  exact ⟨r', s', hr', hs', hlength, hcalls⟩

end Visit

/-! ## Tours that come to no place twice -/

/-- The tour comes to no place twice, and every visit is as `p` says. -/
structure Tour.VisitsOnce {α : Type} (p : Visit → Prop) (tour : Tour α) : Prop where
  nodup : (tour.visits.map Visit.place).Nodup
  isVisit : ∀ v ∈ tour.visits, p v

namespace Tour

variable {α β : Type} {p q : Visit → Prop} {first : Tour α} {next : α → Tour β}

theorem visitsOnce_pure (p : Visit → Prop) (x : α) : (pure x : Tour α).VisitsOnce p :=
  ⟨List.nodup_nil, fun _ hv => nomatch hv⟩

theorem visitsOnce_visit (run : Run α) :
    (visit run).VisitsOnce (fun v => v = ⟨[], [], run.calls⟩) :=
  ⟨List.nodup_singleton _, fun _ hv => List.mem_singleton.1 hv⟩

theorem VisitsOnce.imp (h : first.VisitsOnce p) (hpq : ∀ v, p v → q v) :
    first.VisitsOnce q :=
  ⟨h.nodup, fun v hv => hpq v (h.isVisit v hv)⟩

theorem visits_bind (first : Tour α) (next : α → Tour β) :
    (first >>= next).visits = first.visits ∨
      ∃ x, (first >>= next).visits = first.visits ++ (next x).visits := by
  obtain ⟨visits, result⟩ := first
  cases result with
  | error halt => exact .inl rfl
  | ok x => exact .inr ⟨x, rfl⟩

theorem VisitsOnce.bind (h : first.VisitsOnce p) (hnext : ∀ x, (next x).VisitsOnce q)
    (hapart : ∀ v w, p v → q w → v.place ≠ w.place) :
    (first >>= next).VisitsOnce fun v => p v ∨ q v := by
  obtain hvisits | ⟨x, hvisits⟩ := visits_bind first next
  · refine ⟨?_, fun v hv => ?_⟩
    · rw [hvisits]
      exact h.nodup
    · rw [hvisits] at hv
      exact .inl (h.isVisit v hv)
  · refine ⟨?_, fun v hv => ?_⟩
    · rw [hvisits, List.map_append, List.nodup_append]
      refine ⟨h.nodup, (hnext x).nodup, ?_⟩
      intro place hplace place' hplace'
      obtain ⟨v, hv, rfl⟩ := List.mem_map.1 hplace
      obtain ⟨w, hw, rfl⟩ := List.mem_map.1 hplace'
      exact hapart v w (h.isVisit v hv) ((hnext x).isVisit w hw)
    · rw [hvisits, List.mem_append] at hv
      exact hv.imp (h.isVisit v) ((hnext x).isVisit v)

/-- What follows may be a tour of no visits. -/
theorem VisitsOnce.bind_of_visits_eq_nil (h : first.VisitsOnce p)
    (hnext : ∀ x, (next x).visits = []) : (first >>= next).VisitsOnce p := by
  have hvisits : (first >>= next).visits = first.visits := by
    obtain hvisits | ⟨x, hvisits⟩ := visits_bind first next
    · exact hvisits
    · rw [hvisits, hnext, List.append_nil]
  exact ⟨hvisits ▸ h.nodup, hvisits ▸ h.isVisit⟩

theorem VisitsOnce.below (h : first.VisitsOnce p) (i j : Nat) :
    (first.below i j).VisitsOnce fun v => ∃ w, p w ∧ v = w.below i j := by
  constructor
  · have hplace : (Visit.place ∘ Visit.below i j)
        = (Prod.map (i :: ·) (j :: ·)) ∘ Visit.place := rfl
    show ((first.visits.map (Visit.below i j)).map Visit.place).Nodup
    rw [List.map_map, hplace, ← List.map_map]
    refine h.nodup.map ?_
    exact Function.Injective.prodMap (List.cons_injective) (List.cons_injective)
  · intro v hv
    obtain ⟨w, hw, rfl⟩ := List.mem_map.1 hv
    exact ⟨w, h.isVisit w hw, rfl⟩

end Tour

/-! ## The tour of a check comes to no place twice -/

namespace Run

variable {α β : Type}

theorem calls_bind (first : Run α) (next : α → Run β) :
    (first >>= next).calls = first.calls ∨
      ∃ x, (first >>= next).calls = first.calls ++ (next x).calls := by
  obtain ⟨calls, result⟩ := first
  cases result with
  | error halt => exact .inl rfl
  | ok x => exact .inr ⟨x, rfl⟩

theorem calls_bind_of_calls_eq_nil (first : Run α) {next : α → Run β}
    (hnext : ∀ x, (next x).calls = []) : (first >>= next).calls = first.calls := by
  obtain hcalls | ⟨x, hcalls⟩ := calls_bind first next
  · exact hcalls
  · rw [hcalls, hnext, List.append_nil]

end Run

/-- The calls that are made for instructions are those for the first ones of them. -/
theorem askInstructions_calls_isPrefix (checker : Checker) (s : Section)
    (instructions : List String) :
    (askInstructions checker s instructions).calls <+:
      instructions.map (Call.mk s.rawContent) := by
  induction instructions with
  | nil => exact List.prefix_rfl
  | cons instruction rest ih =>
    rw [askInstructions, followInstructions, List.map_cons]
    obtain hcalls | ⟨missing, hcalls⟩ := Run.calls_bind
      (Run.ask checker (s.label?.getD "") s.rawContent instruction) _
    · rw [hcalls]
      exact ⟨_, rfl⟩
    · rw [hcalls, Run.calls_bind_of_calls_eq_nil]
      · exact (List.prefix_append_right_inj [_]).2 ih
      · intro others
        cases missing <;> rfl

theorem anyPasses_visitsOnce {checker : Checker} {entry : String × Rule}
    (hrule : ∀ s, (entry.2.tour checker s).VisitsOnce (Visit.IsOf entry.2 s))
    (j i : Nat) (sections : List Section) :
    (anyPasses (fun i s => (entry.2.tour checker s).below i j) i sections).VisitsOnce
      (Visit.IsBelow [entry] sections j i) := by
  induction sections generalizing i with
  | nil =>
    rw [anyPasses]
    exact Tour.visitsOnce_pure _ false
  | cons s rest ih =>
    have hrest : ∀ violations : List Violation,
        (if violations.isEmpty then pure true
          else anyPasses (fun i s => (entry.2.tour checker s).below i j) (i + 1) rest).VisitsOnce
            (Visit.IsBelow [entry] rest j (i + 1)) := by
      intro violations
      split
      · exact Tour.visitsOnce_pure _ true
      · exact ih (i + 1)
    rw [anyPasses]
    refine (((hrule s).below i j).bind hrest ?_).imp ?_
    · rintro _ v ⟨w, -, rfl⟩ hv
      exact hv.place_ne (.inl (Nat.lt_succ_self i))
    · rintro v (⟨w, hw, rfl⟩ | hv)
      · exact hw.isBelow
      · exact hv.of_tail_sections

section
variable {checker : Checker} {table : List (String × Rule)}
  (hcheck : ∀ entry ∈ table, ∀ s, (entry.2.tour checker s).VisitsOnce (Visit.IsOf entry.2 s))
include hcheck

theorem examinePairs_visitsOnce (i : Nat) (sections : List Section) :
    (examinePairs (.touring checker) i table sections).VisitsOnce
      (Visit.IsBelow table sections i i) := by
  induction table generalizing i sections with
  | nil =>
    rw [examinePairs]
    · exact Tour.visitsOnce_pure _ []
    · simp
  | cons entry table ih =>
    rw [List.forall_mem_cons] at hcheck
    cases sections with
    | nil =>
      rw [examinePairs]
      · exact Tour.visitsOnce_pure _ []
      · simp
    | cons s rest =>
      rw [examinePairs]
      have hothers := ih hcheck.2 (i + 1) rest
      refine (((hcheck.1 s).below i i).bind
        (fun first => hothers.bind_of_visits_eq_nil fun others => rfl) ?_).imp ?_
      · rintro _ v ⟨w, -, rfl⟩ hv
        exact hv.place_ne (.inl (Nat.lt_succ_self i))
      · rintro v (⟨w, hw, rfl⟩ | hv)
        · exact hw.isBelow
        · exact hv.of_tail_sections.of_tail_table

theorem examineTrials_visitsOnce (j : Nat) (s : Section) :
    (examineTrials (.touring checker) j table s).VisitsOnce
      (Visit.IsBelow table s.sections j 0) := by
  induction table generalizing j with
  | nil =>
    rw [examineTrials]
    exact Tour.visitsOnce_pure _ []
  | cons entry table ih =>
    rw [List.forall_mem_cons] at hcheck
    rw [examineTrials]
    have hothers := ih hcheck.2 (j + 1)
    refine ((anyPasses_visitsOnce hcheck.1 j 0 s.sections).bind (fun found =>
      hothers.bind_of_visits_eq_nil fun others => ?_) ?_).imp ?_
    · split <;> rfl
    · intro v w hv hw
      obtain ⟨l, s', x, -, -, rfl⟩ := hv.of_singleton
      exact hw.place_ne (.inr (Nat.lt_succ_self j))
    · rintro v (hv | hv)
      · obtain ⟨l, s', w, hs, hw, rfl⟩ := hv.of_singleton
        exact ⟨0, l, entry, s', w, rfl, hs, hw, rfl⟩
      · exact hv.of_tail_table

end

/-- The check of a section against a rule comes to no pair twice, and only to pairs that
    lie equally far below the two. -/
theorem Rule.tour_visitsOnce (checker : Checker) (r : Rule) (s : Section) :
    (r.tour checker s).VisitsOnce (Visit.IsOf r s) := by
  induction r using Rule.tableInduction generalizing s with
  | step r ih =>
    have hbelow : (examineTable (.touring checker) r.additionalSections r.sections s).VisitsOnce
        (Visit.IsBelow (r.sections.getD []) s.sections 0 0) := by
      cases hsections : r.sections with
      | none =>
        rw [examineTable]
        exact Tour.visitsOnce_pure _ []
      | some table =>
        rw [examineTable]
        cases matching table r.additionalSections s.sections.length with
        | refused finding => exact Tour.visitsOnce_pure _ _
        | paired => exact examinePairs_visitsOnce (ih table hsections) 0 s.sections
        | tried => exact examineTrials_visitsOnce (ih table hsections) 0 s
    rw [tour_eq]
    refine ((Tour.visitsOnce_visit _).bind (fun instructed =>
      hbelow.bind_of_visits_eq_nil fun below => rfl) ?_).imp ?_
    · rintro _ w rfl ⟨k, l, entry, s', v, -, -, -, rfl⟩
      intro hplace
      cases hplace
    · rintro v (rfl | hv)
      · exact ⟨r, s, rfl, rfl, rfl, askInstructions_calls_isPrefix checker s r.instructions⟩
      · exact hv.isOf

/-! ## The number of calls -/

/-- The rules at a depth below a table, whose own rules are at depth 0. -/
def rulesAtDepth : Nat → List (String × Rule) → List (String × Rule)
  | 0, table => table
  | depth + 1, table => rulesAtDepth depth (table.flatMap fun entry => entry.2.sections.getD [])

/-- How many instructions the rules at a depth have. -/
def instructionsAtDepth (depth : Nat) (table : List (String × Rule)) : Nat :=
  ((rulesAtDepth depth table).map fun entry => entry.2.instructions.length).sum

/-- How many pairs there are of a section and an instruction at the same depth, down to
    some depth. -/
def pairsAbove (depth : Nat) (table : List (String × Rule)) (sections : List Section) : Nat :=
  ∑ d ∈ Finset.range depth, (sectionsAtDepth d sections).length * instructionsAtDepth d table

theorem instructionsAtDepth_append (depth : Nat) (first second : List (String × Rule)) :
    instructionsAtDepth depth (first ++ second)
      = instructionsAtDepth depth first + instructionsAtDepth depth second := by
  unfold instructionsAtDepth
  induction depth generalizing first second with
  | zero => rw [rulesAtDepth, List.map_append, List.sum_append]; rfl
  | succ depth ih =>
    rw [rulesAtDepth, List.flatMap_append]
    exact ih _ _

theorem pairsAbove_cons_table (depth : Nat) (entry : String × Rule)
    (table : List (String × Rule)) (sections : List Section) :
    pairsAbove depth (entry :: table) sections
      = pairsAbove depth [entry] sections + pairsAbove depth table sections := by
  unfold pairsAbove
  rw [← Finset.sum_add_distrib]
  refine Finset.sum_congr rfl fun d _ => ?_
  rw [← Nat.mul_add, ← instructionsAtDepth_append]
  rfl

theorem pairsAbove_cons_sections (depth : Nat) (table : List (String × Rule)) (s : Section)
    (sections : List Section) :
    pairsAbove depth table (s :: sections)
      = pairsAbove depth table [s] + pairsAbove depth table sections := by
  unfold pairsAbove
  rw [← Finset.sum_add_distrib]
  refine Finset.sum_congr rfl fun d _ => ?_
  rw [← Nat.add_mul, ← List.length_append, ← sectionsAtDepth_append]
  rfl

/-- One rule and one section pair as often as the rule has instructions, and then below. -/
theorem pairsAbove_singleton_succ (depth : Nat) (entry : String × Rule) (s : Section) :
    pairsAbove (depth + 1) [entry] [s]
      = entry.2.instructions.length + pairsAbove depth (entry.2.sections.getD []) s.sections := by
  unfold pairsAbove
  rw [Finset.sum_range_succ', Nat.add_comm]
  refine congrArg₂ _ ?_ (Finset.sum_congr rfl fun d _ => ?_)
  · show 1 * (entry.2.instructions.length + 0) = entry.2.instructions.length
    omega
  · have hsections : sectionsAtDepth (d + 1) [s] = sectionsAtDepth d s.sections := by
      rw [sectionsAtDepth, List.flatMap_cons, List.flatMap_nil, List.append_nil]
    have hrules : rulesAtDepth (d + 1) [entry] = rulesAtDepth d (entry.2.sections.getD []) := by
      rw [rulesAtDepth, List.flatMap_cons, List.flatMap_nil, List.append_nil]
    rw [hsections, instructionsAtDepth, hrules]
    rfl

theorem Run.length_calls_bind_le {α β : Type} {first : Run α} {next : α → Run β} {m n : Nat}
    (hfirst : first.calls.length ≤ m) (hnext : ∀ x, (next x).calls.length ≤ n) :
    (first >>= next).calls.length ≤ m + n := by
  obtain hcalls | ⟨x, hcalls⟩ := Run.calls_bind first next
  · rw [hcalls]
    omega
  · have := hnext x
    rw [hcalls, List.length_append]
    omega

theorem anyConforms_length_calls_le {checker : Checker} {entry : String × Rule} {n : Nat}
    (hrule : ∀ s, levelsOf s.sections + 1 ≤ n →
      (entry.2.check checker s).calls.length ≤ pairsAbove n [entry] [s])
    {sections : List Section} (hlevels : levelsOf sections ≤ n) :
    (anyConforms (entry.2.check checker) sections).calls.length
      ≤ pairsAbove n [entry] sections := by
  induction sections with
  | nil => exact Nat.zero_le _
  | cons s rest ih =>
    obtain ⟨hs, hrest⟩ := levelsOf_cons_le_iff.1 hlevels
    rw [anyConforms_cons, pairsAbove_cons_sections]
    refine Run.length_calls_bind_le (hrule s hs) fun violations => ?_
    split
    · exact Nat.zero_le _
    · exact ih hrest

section
variable {checker : Checker} {table : List (String × Rule)} {n : Nat}
  (hcheck : ∀ entry ∈ table, ∀ s, levelsOf s.sections + 1 ≤ n →
    (entry.2.check checker s).calls.length ≤ pairsAbove n [entry] [s])
include hcheck

theorem checkPairs_length_calls_le {sections : List Section} (hlevels : levelsOf sections ≤ n) :
    (checkPairs checker table sections).calls.length ≤ pairsAbove n table sections := by
  induction table generalizing sections with
  | nil =>
    rw [checkPairs_nil_table]
    exact Nat.zero_le _
  | cons entry table ih =>
    rw [List.forall_mem_cons] at hcheck
    cases sections with
    | nil =>
      rw [checkPairs_nil_sections]
      exact Nat.zero_le _
    | cons s rest =>
      obtain ⟨hs, hrest⟩ := levelsOf_cons_le_iff.1 hlevels
      have hfirst := hcheck.1 s hs
      have hothers := ih hcheck.2 hrest
      -- The other pairs of this rule and those of this section are counted and never met.
      have hdiagonal : pairsAbove n [entry] [s] + pairsAbove n table rest
          ≤ pairsAbove n (entry :: table) (s :: rest) := by
        have htable := pairsAbove_cons_table n entry table (s :: rest)
        have hentry := pairsAbove_cons_sections n [entry] s rest
        have hrules := pairsAbove_cons_sections n table s rest
        omega
      rw [checkPairs_cons]
      refine (Run.length_calls_bind_le hfirst fun first => ?_).trans hdiagonal
      rw [Run.calls_bind_of_calls_eq_nil]
      · exact hothers
      · exact fun _ => rfl

theorem checkTrials_length_calls_le {s : Section} (hlevels : levelsOf s.sections ≤ n) :
    (checkTrials checker table s).calls.length ≤ pairsAbove n table s.sections := by
  induction table with
  | nil =>
    rw [checkTrials_nil]
    exact Nat.zero_le _
  | cons entry table ih =>
    rw [List.forall_mem_cons] at hcheck
    have hothers := ih hcheck.2
    rw [checkTrials_cons, pairsAbove_cons_table]
    refine Run.length_calls_bind_le (anyConforms_length_calls_le hcheck.1 hlevels) fun found => ?_
    rw [Run.calls_bind_of_calls_eq_nil]
    · exact hothers
    · intro others
      split <;> rfl

end

theorem Rule.check_length_calls_le (checker : Checker) (r : Rule) (s : Section) {n : Nat}
    (hlevels : levelsOf s.sections + 1 ≤ n) (name : String) :
    (r.check checker s).calls.length ≤ pairsAbove n [(name, r)] [s] := by
  induction r using Rule.tableInduction generalizing s n name with
  | step r ih =>
    obtain ⟨m, rfl⟩ : ∃ m, n = m + 1 := ⟨n - 1, by omega⟩
    have hlevels' : levelsOf s.sections ≤ m := by omega
    have hbelow : (checkTable checker r.additionalSections r.sections s).calls.length
        ≤ pairsAbove m (r.sections.getD []) s.sections := by
      cases hsections : r.sections with
      | none =>
        rw [checkTable_none]
        exact Nat.zero_le _
      | some table =>
        have hcheck : ∀ entry ∈ table, ∀ s, levelsOf s.sections + 1 ≤ m →
            (entry.2.check checker s).calls.length ≤ pairsAbove m [entry] [s] :=
          fun entry hentry s hs => ih table hsections entry hentry s hs entry.1
        rw [checkTable_some]
        cases matching table r.additionalSections s.sections.length with
        | refused finding => exact Nat.zero_le _
        | paired => exact checkPairs_length_calls_le hcheck hlevels'
        | tried => exact checkTrials_length_calls_le hcheck hlevels'
    have hinstructed : (askInstructions checker s r.instructions).calls.length
        ≤ r.instructions.length := by
      have h := (askInstructions_calls_isPrefix checker s r.instructions).length_le
      rwa [List.length_map] at h
    rw [check_eq, pairsAbove_singleton_succ]
    refine Run.length_calls_bind_le hinstructed fun instructed => ?_
    rw [Run.calls_bind_of_calls_eq_nil]
    · exact hbelow
    · exact fun _ => rfl

/-! ## The check of a document -/

/-- **No pair is checked twice.** The check of a document is a tour of sections and rules.
    It comes at most once to a section with a rule, which are equally deep, and then asks
    for the rule's instructions in their order, each at most once. So it makes at most as
    many calls as there are pairs of a section and an instruction at the same depth. -/
theorem sections_meet_rules_at_most_once (checker : Checker) (table : List (String × Rule))
    (document : Document) :
    (documentTour checker table document).toRun = checkDocument checker table document ∧
    ((documentTour checker table document).visits.map Visit.place).Nodup ∧
    (∀ v ∈ (documentTour checker table document).visits,
      ∃ r s, ruleAt? table v.rulePath = some r ∧ document.at? v.sectionPath = some s ∧
        v.sectionPath.length = v.rulePath.length ∧
        v.calls <+: r.instructions.map (Call.mk s.rawContent)) ∧
    (checkDocument checker table document).calls.length ≤
      ∑ d ∈ Finset.range (levelsOf document.sections),
        (sectionsAtDepth d document.sections).length * instructionsAtDepth d table := by
  have honce : ((documentTour checker table document).VisitsOnce
      (Visit.IsBelow table document.sections 0 0)) := by
    unfold documentTour examineDocument
    cases document.misplaced? with
    | some s => exact ⟨List.nodup_nil, fun _ hv => nomatch hv⟩
    | none =>
      exact examinePairs_visitsOnce (fun entry _ s => entry.2.tour_visitsOnce checker s) 0 _
  refine ⟨documentTour_toRun checker table document, honce.nodup,
    fun v hv => (honce.isVisit v hv).isAt, ?_⟩
  rw [checkDocument_eq]
  cases document.misplaced? with
  | some s => exact Nat.zero_le _
  | none =>
    exact checkPairs_length_calls_le
      (fun entry _ s hs => entry.2.check_length_calls_le checker s hs entry.1) (Nat.le_refl _)

end Rubric
