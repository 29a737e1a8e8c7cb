/-
  Rubric.Proofs.FirstPath

  Searches that stop at the first node of a tree with a property.

  Nodes are named by paths, the number of a node among its siblings at every level,
  so that reading order is the order of paths. A search that goes through a tree node
  by node, and down into each before it goes on to the next, ends at the first path
  that has the property it looks for. `FindsFirst` says so, and is put together here
  from what it says of the first tree and of the trees behind it.
-/
import Mathlib.Data.List.Basic

namespace Rubric

/-- Of the paths with a property, this one comes first in reading order. -/
def IsFirst (p : List Nat → Prop) (path : List Nat) : Prop :=
  p path ∧ ∀ q, q < path → ¬ p q

/-- What a search in reading order comes to: nothing if no path has the property, and
    otherwise something that belongs to the first path that has it. -/
def FindsFirst {α : Type} (p : List Nat → Prop) (belongs : List Nat → α → Prop) :
    Option α → Prop
  | none => ∀ path, ¬ p path
  | some x => ∃ path, IsFirst p path ∧ belongs path x

/-- A property of paths, as it is for the trees behind the first one. -/
def Behind (p : List Nat → Prop) : List Nat → Prop
  | [] => False
  | i :: path => p ((i + 1) :: path)

/-- The property that paths into some trees have if they have it in the tree that the first
    step leads to. -/
def InForest {τ : Type} (trees : List τ) (p : τ → List Nat → Prop) : List Nat → Prop
  | [] => False
  | i :: path => ∃ t, trees[i]? = some t ∧ p t path

theorem IsFirst.unique {p : List Nat → Prop} {path other : List Nat} (h : IsFirst p path)
    (hother : IsFirst p other) : path = other := by
  have hle : ¬ path < other := fun hlt => hother.2 path hlt h.1
  have hge : ¬ other < path := fun hlt => h.2 other hlt hother.1
  exact Std.Trichotomous.trichotomous path other hle hge

theorem isFirst_nil {p : List Nat → Prop} (h : p []) : IsFirst p [] :=
  ⟨h, fun q hq => absurd hq (List.not_lt_nil q)⟩

/-- The first path in the first tree comes before all others. -/
theorem IsFirst.zero_cons {p : List Nat → Prop} {path : List Nat} (hnil : ¬ p [])
    (h : IsFirst (fun q => p (0 :: q)) path) : IsFirst p (0 :: path) := by
  refine ⟨h.1, fun q hq => ?_⟩
  cases q with
  | nil => exact hnil
  | cons j q =>
    rcases List.cons_lt_cons_iff.1 hq with hlt | ⟨rfl, hlt⟩
    · exact absurd hlt (Nat.not_lt_zero j)
    · exact h.2 q hlt

/-- If the first tree has none, the first path is the first one in the trees behind it. -/
theorem IsFirst.succ_cons {p : List Nat → Prop} {i : Nat} {path : List Nat} (hnil : ¬ p [])
    (hzero : ∀ q, ¬ p (0 :: q)) (h : IsFirst (Behind p) (i :: path)) :
    IsFirst p ((i + 1) :: path) := by
  refine ⟨h.1, fun q hq => ?_⟩
  match q with
  | [] => exact hnil
  | 0 :: q => exact hzero q
  | (j + 1) :: q =>
    have hlt : j :: q < i :: path := by
      rwa [List.cons_lt_cons_iff, Nat.add_lt_add_iff_right, Nat.add_right_cancel_iff,
        ← List.cons_lt_cons_iff] at hq
    exact h.2 (j :: q) hlt

namespace FindsFirst

variable {α : Type} {p q : List Nat → Prop} {belongs belongs' : List Nat → α → Prop}
  {found : Option α}

theorem eq_none_iff (h : FindsFirst p belongs found) : found = none ↔ ∀ path, ¬ p path := by
  cases found with
  | none => exact iff_of_true rfl h
  | some x =>
    obtain ⟨path, hfirst, -⟩ := h
    exact iff_of_false nofun fun hnone => hnone path hfirst.1

theorem eq_some_iff (h : FindsFirst p belongs found)
    (hbelongs : ∀ path x y, belongs path x → belongs path y → x = y) {x : α} :
    found = some x ↔ ∃ path, IsFirst p path ∧ belongs path x := by
  cases found with
  | none =>
    refine iff_of_false nofun ?_
    rintro ⟨path, hfirst, -⟩
    exact h path hfirst.1
  | some y =>
    obtain ⟨path, hfirst, hy⟩ := h
    constructor
    · intro heq
      exact ⟨path, hfirst, Option.some.inj heq ▸ hy⟩
    · rintro ⟨other, hother, hx⟩
      obtain rfl := hfirst.unique hother
      exact congrArg some (hbelongs path y x hy hx)

theorem imp (h : FindsFirst p belongs found) (hp : ∀ path, p path ↔ q path)
    (hbelongs : ∀ path x, p path → belongs path x → belongs' path x) :
    FindsFirst q belongs' found := by
  obtain rfl : p = q := funext fun path => propext (hp path)
  cases found with
  | none => exact h
  | some x =>
    obtain ⟨path, hfirst, hx⟩ := h
    exact ⟨path, hfirst, hbelongs path x hfirst.1 hx⟩

theorem root (hp : p []) {x : α} (hx : belongs [] x) : FindsFirst p belongs (some x) :=
  ⟨[], isFirst_nil hp, hx⟩

/-- A search through some trees, of which the first is searched first. -/
theorem cons {first rest : Option α} (hnil : ¬ p [])
    (hfirst : FindsFirst (fun path => p (0 :: path)) (fun path => belongs (0 :: path)) first)
    (hrest : FindsFirst (Behind p) (fun path x => Behind (belongs · x) path) rest) :
    FindsFirst p belongs (first.or rest) := by
  cases first with
  | some x =>
    obtain ⟨path, hpath, hx⟩ := hfirst
    exact ⟨0 :: path, hpath.zero_cons hnil, hx⟩
  | none =>
    rw [Option.none_or]
    cases rest with
    | none =>
      intro path
      match path with
      | [] => exact hnil
      | 0 :: path => exact hfirst path
      | (i + 1) :: path => exact hrest (i :: path)
    | some x =>
      obtain ⟨path, hpath, hx⟩ := hrest
      cases path with
      | nil => exact absurd hpath.1 id
      | cons i path => exact ⟨(i + 1) :: path, hpath.succ_cons hnil hfirst, hx⟩

/-- A search through some trees one after another, with the same search in each. -/
theorem findSome? {τ : Type} {trees : List τ} {find : τ → Option α}
    {p : τ → List Nat → Prop} {belongs : τ → List Nat → α → Prop}
    (h : ∀ t ∈ trees, FindsFirst (p t) (belongs t) (find t)) :
    FindsFirst (InForest trees p)
      (fun path x => InForest trees (fun t path => belongs t path x) path)
      (trees.findSome? find) := by
  induction trees with
  | nil =>
    rintro (_ | ⟨i, path⟩) hpath
    · exact hpath
    · obtain ⟨t, ht, -⟩ := hpath
      exact nomatch ht
  | cons t rest ih =>
    rw [List.forall_mem_cons] at h
    have hor : (t :: rest).findSome? find = (find t).or (rest.findSome? find) := by
      rw [List.findSome?_cons]
      cases find t <;> rfl
    rw [hor]
    refine .cons id ?_ ?_
    · refine h.1.imp (fun path => ⟨fun hp => ⟨t, rfl, hp⟩, ?_⟩) fun path x _ hx => ⟨t, rfl, hx⟩
      rintro ⟨t', ht', hp⟩
      obtain rfl := Option.some.inj ht'
      exact hp
    · refine (ih h.2).imp (fun path => ?_) fun path x _ hx => ?_
      · cases path <;> exact Iff.rfl
      · cases path <;> exact hx

end FindsFirst

end Rubric
