/-
  Rubric.Proofs.Json.Resolved

  What resolving leaves behind.

  A resolved document has no reference at any depth: the members beside a reference are
  put over a target that is resolved itself, and the reference is never among them. A
  document without references is left as it is, with its members in their order, so
  that resolving once more changes nothing.
-/
import Mathlib.Data.List.Permutation
import Rubric.Proofs.Json.Expansion
import Rubric.Proofs.Json.Fields

namespace Rubric.Json

/-! ## Parts of a value -/

/-- The first value stands in the second one at some depth, or is all of it. -/
inductive PartOf (part : Json) : Json → Prop
  | self : PartOf part part
  | item {items : List Json} {x : Json} (hx : x ∈ items) (h : PartOf part x) :
      PartOf part (.array items)
  | member {fields : List (String × Json)} {entry : String × Json} (hentry : entry ∈ fields)
      (h : PartOf part entry.2) : PartOf part (.object fields)

/-- No object in the value, at whatever depth, has a member that makes it a reference. -/
def IsFree (v : Json) : Prop :=
  ∀ fields, PartOf (.object fields) v → referenceKey ∉ Fields.names fields

@[simp] theorem isFree_null : IsFree .null := nofun

@[simp] theorem isFree_bool (b : Bool) : IsFree (.bool b) := nofun

@[simp] theorem isFree_number (n : Number) : IsFree (.number n) := nofun

@[simp] theorem isFree_string (s : String) : IsFree (.string s) := nofun

theorem isFree_array_iff {items : List Json} :
    IsFree (.array items) ↔ ∀ x ∈ items, IsFree x := by
  constructor
  · intro h x hx fields hpart
    exact h fields (.item hx hpart)
  · intro h fields hpart
    cases hpart with
    | item hx hpart => exact h _ hx fields hpart

theorem isFree_object_iff {fields : List (String × Json)} :
    IsFree (.object fields) ↔
      referenceKey ∉ Fields.names fields ∧ ∀ entry ∈ fields, IsFree entry.2 := by
  constructor
  · intro h
    refine ⟨h fields .self, fun entry hentry others hpart => ?_⟩
    exact h others (.member hentry hpart)
  · rintro ⟨hnames, hvalues⟩ others hpart
    cases hpart with
    | self => exact hnames
    | member hentry hpart => exact hvalues _ hentry others hpart

/-! ## Resolving removes the references -/

/-- A member that is no reference and free of references leaves an object free of them. -/
theorem isFree_object_insert {name : String} {x : Json} {fields : List (String × Json)}
    (hname : name ≠ referenceKey) (hx : IsFree x) (hfields : IsFree (.object fields)) :
    IsFree (.object (Fields.insert name x fields)) := by
  rw [isFree_object_iff] at hfields ⊢
  obtain ⟨hnames, hvalues⟩ := hfields
  constructor
  · rw [Fields.names_insert]
    split
    · exact hnames
    · simp [hnames, hname.symm]
  · intro entry hentry
    rcases Fields.mem_of_mem_insert hentry with rfl | hold
    · exact hx
    · exact hvalues entry hold

theorem isFree_of_overlay? {base w : Json} {siblings : List (String × Json)}
    (hbase : IsFree base)
    (hsiblings : ∀ entry ∈ siblings, entry.1 ≠ referenceKey ∧ IsFree entry.2)
    (h : overlay? base siblings = some w) : IsFree w := by
  induction siblings generalizing base with
  | nil =>
    obtain rfl : base = w := Option.some.inj h
    exact hbase
  | cons entry rest ih =>
    obtain ⟨name, x⟩ := entry
    obtain ⟨⟨hname, hx⟩, hrest⟩ := List.forall_mem_cons.1 hsiblings
    cases base with
    | object fields => exact ih (isFree_object_insert hname hx hbase) hrest h
    | _ => simp [overlay?] at h

/-- What is related to a place on the left has a place on the right. -/
theorem exists_of_forall₂_right {α β : Type} {rel : α → β → Prop} {xs : List α} {ys : List β}
    (h : List.Forall₂ rel xs ys) {y : β} (hy : y ∈ ys) : ∃ x ∈ xs, rel x y := by
  induction h with
  | nil => cases hy
  | cons hfirst _ ih =>
    rcases List.mem_cons.1 hy with rfl | hrest
    · exact ⟨_, List.mem_cons_self, hfirst⟩
    · obtain ⟨x, hx, hrel⟩ := ih hrest
      exact ⟨x, List.mem_cons_of_mem _ hx, hrel⟩

variable {root : Json}

/-- What a value stands for is free of references. -/
theorem Expands.isFree {v w : Json} (h : Expands root v w) : IsFree w := by
  induction h using Expands.induction with
  | null => exact isFree_null
  | bool b => exact isFree_bool b
  | number n => exact isFree_number n
  | string s => exact isFree_string s
  | array _ hall =>
    refine isFree_array_iff.2 fun y hy => ?_
    obtain ⟨_, _, _, hfree⟩ := exists_of_forall₂_right hall hy
    exact hfree
  | object _ hfree hall =>
    refine isFree_object_iff.2 ⟨?_, fun entry hentry => ?_⟩
    · rw [Fields.names, (forall₂_sameName_iff.1 hall).1]
      exact Fields.get?_eq_none_iff.1 hfree
    · obtain ⟨_, _, _, _, hvalue⟩ := exists_of_forall₂_right hall hentry
      exact hvalue
  | reference _ _ _ _ _ hbase hall hoverlay =>
    -- The reference itself is not among the members that are put over its target.
    refine isFree_of_overlay? hbase (fun entry hentry => ?_) hoverlay
    obtain ⟨other, hother, hname, _, hvalue⟩ := exists_of_forall₂_right hall hentry
    have hbeside : other.1 ≠ referenceKey := by simpa using (List.mem_filter.1 hother).2
    exact ⟨hname ▸ hbeside, hvalue⟩

/-! ## A document without references stays as it is -/

/-- A value without references stands for itself. -/
theorem expands_self_of_isFree : ∀ {v : Json}, IsFree v → Expands root v v
  | .null, _ => .null
  | .bool b, _ => .bool b
  | .number n, _ => .number n
  | .string s, _ => .string s
  | .array items, h => by
    have hitems := isFree_array_iff.1 h
    refine .array (List.forall₂_same.2 fun x hx => ?_)
    have hsize := List.sizeOf_lt_of_mem hx
    exact expands_self_of_isFree (hitems x hx)
  | .object fields, h => by
    obtain ⟨hnames, hvalues⟩ := isFree_object_iff.1 h
    refine .object (Fields.get?_eq_none_iff.2 hnames) rfl (List.forall₂_same.2 fun x hx => ?_)
    obtain ⟨entry, hentry, rfl⟩ := List.mem_map.1 hx
    have hsize := sizeOf_lt_of_mem_fields hentry
    exact expands_self_of_isFree (hvalues entry hentry)
termination_by v => sizeOf v
decreasing_by
  · simp only [Json.array.sizeOf_spec]
    omega
  · exact hsize

/-- **Resolved documents have no references, and resolving again changes nothing.** Equal
    values have equal members in the same order, so resolving keeps the order of members
    too, both of a resolved document and of one that had no references to begin with. -/
theorem resolved_is_free_and_stable (root : Json) :
    (∀ v, resolve root = .ok v → IsFree v ∧ resolve v = .ok v) ∧
      (IsFree root → resolve root = .ok root) := by
  refine ⟨fun v hv => ?_, fun h => resolve_eq_ok_of_expands (expands_self_of_isFree h)⟩
  have hfree : IsFree v := (expands_of_resolves [] root ⟨_, hv⟩).isFree
  exact ⟨hfree, resolve_eq_ok_of_expands (expands_self_of_isFree hfree)⟩

/-- The target has a reference itself, and the member beside the reference to it takes the
    place of one of its members. -/
theorem overridden_target_is_free :
    let root : Json := .object
      [("use", .object [("max", ofNat 2), ("$ref", .string "#/step"), ("note", .null)]),
        ("step", .object [("min", ofNat 1), ("max", .object [("$ref", .string "#/limit")])]),
        ("limit", ofNat 9)]
    let resolved : Json := .object
      [("use", .object [("min", ofNat 1), ("max", ofNat 2), ("note", .null)]),
        ("step", .object [("min", ofNat 1), ("max", ofNat 9)]), ("limit", ofNat 9)]
    resolve root = .ok resolved ∧ IsFree resolved ∧ resolve resolved = .ok resolved := by
  intro root resolved
  have hlocal : localPointer? "#/limit" = some "/limit" := by decide
  have hlimit : Expands root (.object [("$ref", .string "#/limit")]) (ofNat 9) :=
    .reference rfl hlocal rfl (.number _) rfl .nil rfl
  have hstep : Expands root
      (.object [("min", ofNat 1), ("max", .object [("$ref", .string "#/limit")])])
      (.object [("min", ofNat 1), ("max", ofNat 9)]) :=
    .object rfl rfl (.cons (.number _) (.cons hlimit .nil))
  have hover : overlay? (.object [("min", ofNat 1), ("max", ofNat 9)])
      [("max", ofNat 2), ("note", .null)] =
      some (.object [("min", ofNat 1), ("max", ofNat 2), ("note", .null)]) := rfl
  have hpointed : localPointer? "#/step" = some "/step" := by decide
  have huse : Expands root
      (.object [("max", ofNat 2), ("$ref", .string "#/step"), ("note", .null)])
      (.object [("min", ofNat 1), ("max", ofNat 2), ("note", .null)]) :=
    .reference rfl hpointed rfl hstep rfl (.cons (.number _) (.cons .null .nil)) hover
  have hok : resolve root = .ok resolved :=
    resolve_eq_ok_of_expands (.object rfl rfl (.cons huse (.cons hstep (.cons (.number _) .nil))))
  obtain ⟨hfree, hstable⟩ := (resolved_is_free_and_stable root).1 resolved hok
  exact ⟨hok, hfree, hstable⟩

end Rubric.Json
