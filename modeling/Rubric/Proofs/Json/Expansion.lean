/-
  Rubric.Proofs.Json.Expansion

  What a document with references stands for, and that resolving finds it.

  `Expands root` relates a value to what it stands for, by finite derivations and
  without a stack: a reference stands for what its target stands for, with the
  members beside it put over that. Resolving keeps a stack of open pointers and
  refuses a pointer that is met again inside of its own target. This refuses
  exactly the documents that have no derivation, although one place can have
  several pointers.

  Completeness rests on what a value needs: its items, its members, its target.
  A value with a derivation cannot need itself, and everything that is resolved
  while a pointer is open is needed by that pointer's target.
-/
import Mathlib.Data.List.Forall2
import Mathlib.Logic.Relation
import Rubric.Json.Reference

namespace Rubric.Json

/-! ## Expansion -/

/-- The members of an object without the reference. -/
def beside (fields : List (String × Json)) : List (String × Json) :=
  fields.filter fun entry => entry.1 ≠ referenceKey

/-- Members put over a value. Where there are any, the value has to be an object. -/
def overlay? (base : Json) : List (String × Json) → Option Json
  | [] => some base
  | (name, x) :: rest =>
    match base with
    | .object fields => overlay? (.object (Fields.insert name x fields)) rest
    | _ => none

/-- What a value of the document `root` stands for. -/
inductive Expands (root : Json) : Json → Json → Prop
  | null : Expands root .null .null
  | bool (b : Bool) : Expands root (.bool b) (.bool b)
  | number (n : Number) : Expands root (.number n) (.number n)
  | string (s : String) : Expands root (.string s) (.string s)
  | array {items expanded : List Json}
      (hitems : List.Forall₂ (Expands root) items expanded) :
      Expands root (.array items) (.array expanded)
  /-- The members keep their names and their order. -/
  | object {fields expanded : List (String × Json)}
      (hfree : Fields.get? referenceKey fields = none)
      (hnames : expanded.map Prod.fst = fields.map Prod.fst)
      (hvalues : List.Forall₂ (Expands root) (fields.map Prod.snd) (expanded.map Prod.snd)) :
      Expands root (.object fields) (.object expanded)
  | reference {fields : List (String × Json)} {reference pointer : String} {target base w : Json}
      {siblings : List (String × Json)}
      (hreference : Fields.get? referenceKey fields = some (.string reference))
      (hlocal : localPointer? reference = some pointer)
      (htarget : root.pointer? pointer = some target)
      (hbase : Expands root target base)
      (hnames : siblings.map Prod.fst = (beside fields).map Prod.fst)
      (hvalues : List.Forall₂ (Expands root) ((beside fields).map Prod.snd)
        (siblings.map Prod.snd))
      (hoverlay : overlay? base siblings = some w) :
      Expands root (.object fields) w

/-! ## One step of resolving -/

open Resolver (direct)

/-- Resolving `v` under the open pointers `stack` succeeds with `w`. -/
def Resolves (root : Json) (stack : List String) (v w : Json) : Prop :=
  ∃ h, direct.resolveIn root stack v h = .ok w

theorem pure_eq_ok_iff {α : Type} {x y : α} :
    (pure x : Except ReferenceError α) = .ok y ↔ x = y :=
  Except.ok.injEq x y ▸ Iff.rfl

/-- One thing after the other succeeds if both do. -/
theorem bind_eq_ok_iff {α β : Type} {first : Except ReferenceError α}
    {next : α → Except ReferenceError β} {y : β} :
    (first >>= next) = .ok y ↔ ∃ x, first = .ok x ∧ next x = .ok y := by
  cases first with
  | error e => simp [bind, Except.bind]
  | ok x => simp [bind, Except.bind]

/-- Two members have one name, and a relation holds of their values. -/
def SameName (rel : Json → Json → Prop) (a b : String × Json) : Prop :=
  a.1 = b.1 ∧ rel a.2 b.2

theorem forall₂_sameName_iff {rel : Json → Json → Prop} {fields others : List (String × Json)} :
    List.Forall₂ (SameName rel) fields others ↔
      others.map Prod.fst = fields.map Prod.fst ∧
      List.Forall₂ rel (fields.map Prod.snd) (others.map Prod.snd) := by
  induction fields generalizing others with
  | nil => cases others <;> simp
  | cons entry rest ih =>
    cases others with
    | nil => simp
    | cons other others =>
      rw [List.forall₂_cons, ih]
      simp only [List.map_cons, List.cons.injEq, List.forall₂_cons, SameName]
      constructor
      · rintro ⟨⟨hname, hvalue⟩, hnames, hvalues⟩
        exact ⟨⟨hname.symm, hnames⟩, hvalue, hvalues⟩
      · rintro ⟨⟨hname, hnames⟩, hvalue, hvalues⟩
        exact ⟨⟨hname.symm, hvalue⟩, hnames, hvalues⟩

variable {root : Json} {stack : List String}

theorem resolveItems_eq_ok_iff {items expanded : List Json}
    (h : pointersOfItems items ⊆ pointers root) :
    direct.resolveItems root stack items h = .ok expanded ↔
      List.Forall₂ (Resolves root stack) items expanded := by
  induction items generalizing expanded with
  | nil =>
    rw [Resolver.resolveItems, pure_eq_ok_iff]
    cases expanded <;> simp
  | cons x xs ih =>
    have hx : pointers x ⊆ pointers root := fun p hp => h (by simp [pointersOfItems, hp])
    have hxs : pointersOfItems xs ⊆ pointers root :=
      fun p hp => h (by simp [pointersOfItems, hp])
    rw [Resolver.resolveItems, bind_eq_ok_iff]
    constructor
    · rintro ⟨y, hfirst, hrest⟩
      obtain ⟨ys, hothers, hok⟩ := bind_eq_ok_iff.1 hrest
      obtain rfl := pure_eq_ok_iff.1 hok
      exact List.Forall₂.cons ⟨hx, hfirst⟩ ((ih hxs).1 hothers)
    · intro hall
      obtain ⟨y, ys, ⟨_, hfirst⟩, hrest, rfl⟩ := List.forall₂_cons_left_iff.1 hall
      exact ⟨y, hfirst, bind_eq_ok_iff.2 ⟨ys, (ih hxs).2 hrest, rfl⟩⟩

/-- If the document has the pointers of some members, it has those of the first value and
    of the others. -/
theorem pointers_subset_of_cons {name : String} {x : Json} {xs : List (String × Json)}
    (h : pointersOfFields ((name, x) :: xs) ⊆ pointers root) :
    pointers x ⊆ pointers root ∧ pointersOfFields xs ⊆ pointers root := by
  rw [pointersOfFields, List.append_subset, List.append_subset] at h
  exact h.2

theorem resolveFields_eq_ok_iff {fields expanded : List (String × Json)}
    (h : pointersOfFields fields ⊆ pointers root) :
    direct.resolveFields root stack fields h = .ok expanded ↔
      List.Forall₂ (SameName (Resolves root stack)) fields expanded := by
  induction fields generalizing expanded with
  | nil =>
    rw [Resolver.resolveFields, pure_eq_ok_iff]
    cases expanded <;> simp
  | cons entry xs ih =>
    obtain ⟨name, x⟩ := entry
    obtain ⟨hx, hxs⟩ := pointers_subset_of_cons h
    rw [Resolver.resolveFields, bind_eq_ok_iff]
    constructor
    · rintro ⟨y, hfirst, hrest⟩
      obtain ⟨ys, hothers, hok⟩ := bind_eq_ok_iff.1 hrest
      obtain rfl := pure_eq_ok_iff.1 hok
      exact List.Forall₂.cons ⟨rfl, hx, hfirst⟩ ((ih hxs).1 hothers)
    · intro hall
      obtain ⟨⟨_, y⟩, ys, ⟨rfl, _, hfirst⟩, hrest, rfl⟩ := List.forall₂_cons_left_iff.1 hall
      exact ⟨y, hfirst, bind_eq_ok_iff.2 ⟨ys, (ih hxs).2 hrest, rfl⟩⟩

theorem beside_cons_of_eq {entry : String × Json} (hname : entry.1 = referenceKey)
    (rest : List (String × Json)) : beside (entry :: rest) = beside rest := by
  simp [beside, hname]

theorem beside_cons_of_ne {entry : String × Json} (hname : entry.1 ≠ referenceKey)
    (rest : List (String × Json)) : beside (entry :: rest) = entry :: beside rest := by
  simp [beside, hname]

/-- The members beside a reference are resolved in order, each right before it is put
    over what the reference stands for. -/
theorem resolveOver_eq_ok_iff {reference : String} {fields : List (String × Json)}
    (h : pointersOfFields fields ⊆ pointers root) {base w : Json} :
    direct.resolveOver root stack reference fields h base = .ok w ↔
      ∃ siblings, List.Forall₂ (SameName (Resolves root stack)) (beside fields) siblings ∧
        overlay? base siblings = some w := by
  induction fields generalizing base with
  | nil =>
    rw [Resolver.resolveOver, pure_eq_ok_iff]
    simp [beside, overlay?]
  | cons entry xs ih =>
    obtain ⟨name, x⟩ := entry
    obtain ⟨hx, hxs⟩ := pointers_subset_of_cons h
    rw [Resolver.resolveOver]
    -- The reference itself is passed over, wherever it stands among the members.
    by_cases hname : name = referenceKey
    · rw [if_pos hname, ih hxs, beside_cons_of_eq hname]
    rw [if_neg hname, beside_cons_of_ne hname, bind_eq_ok_iff]
    constructor
    · rintro ⟨y, hfirst, hok⟩
      cases base with
      | object target =>
        obtain ⟨siblings, hall, hoverlay⟩ := (ih hxs).1 hok
        exact ⟨(name, y) :: siblings, List.Forall₂.cons ⟨rfl, hx, hfirst⟩ hall, hoverlay⟩
      | _ => cases hok
    · rintro ⟨siblings, hall, hoverlay⟩
      obtain ⟨⟨_, y⟩, ys, ⟨rfl, _, hfirst⟩, hrest, rfl⟩ := List.forall₂_cons_left_iff.1 hall
      cases base with
      | object target => exact ⟨y, hfirst, (ih hxs).2 ⟨ys, hrest, hoverlay⟩⟩
      | _ => simp [overlay?] at hoverlay

theorem resolves_array_iff {items : List Json} {w : Json}
    (h : pointers (.array items) ⊆ pointers root) :
    direct.resolveIn root stack (.array items) h = .ok w ↔
      ∃ expanded, w = .array expanded ∧ List.Forall₂ (Resolves root stack) items expanded := by
  have hitems : pointersOfItems items ⊆ pointers root := by simpa [pointers] using h
  simp only [← resolveItems_eq_ok_iff hitems]
  rw [Resolver.resolveIn, bind_eq_ok_iff]
  constructor
  · rintro ⟨expanded, hrest, hok⟩
    exact ⟨expanded, (Except.ok.inj hok).symm, hrest⟩
  · rintro ⟨expanded, rfl, hrest⟩
    exact ⟨expanded, hrest, rfl⟩

/-- The target of a reference is resolved first, and then the members beside it over
    what comes of the target. -/
theorem resolveTarget_eq_ok_iff {reference pointer : String} {target w : Json}
    {fields : List (String × Json)} (htarget : pointers target ⊆ pointers root)
    (hfields : pointersOfFields fields ⊆ pointers root) :
    (do
      let base ← direct.resolveIn root (pointer :: stack) target htarget
      direct.resolveOver root stack reference fields hfields base) = .ok w ↔
      ∃ base siblings, Resolves root (pointer :: stack) target base ∧
        List.Forall₂ (SameName (Resolves root stack)) (beside fields) siblings ∧
        overlay? base siblings = some w := by
  rw [bind_eq_ok_iff]
  constructor
  · rintro ⟨base, hbase, hover⟩
    obtain ⟨siblings, hall, hoverlay⟩ := (resolveOver_eq_ok_iff hfields).1 hover
    exact ⟨base, siblings, ⟨htarget, hbase⟩, hall, hoverlay⟩
  · rintro ⟨base, siblings, ⟨_, hbase⟩, hall, hoverlay⟩
    exact ⟨base, hbase, (resolveOver_eq_ok_iff hfields).2 ⟨siblings, hall, hoverlay⟩⟩

theorem subset_of_object {fields : List (String × Json)}
    (h : pointers (.object fields) ⊆ pointers root) : pointersOfFields fields ⊆ pointers root := by
  rwa [pointers] at h

/-- Everything that resolving an object can do. -/
theorem resolves_object_iff {fields : List (String × Json)} {w : Json}
    (h : pointers (.object fields) ⊆ pointers root) :
    direct.resolveIn root stack (.object fields) h = .ok w ↔
      (Fields.get? referenceKey fields = none ∧ ∃ expanded, w = .object expanded ∧
        List.Forall₂ (SameName (Resolves root stack)) fields expanded) ∨
      ∃ reference pointer target base siblings,
        Fields.get? referenceKey fields = some (.string reference) ∧
        localPointer? reference = some pointer ∧ pointer ∉ stack ∧
        root.pointer? pointer = some target ∧ Resolves root (pointer :: stack) target base ∧
        List.Forall₂ (SameName (Resolves root stack)) (beside fields) siblings ∧
        overlay? base siblings = some w := by
  have hfields : pointersOfFields fields ⊆ pointers root := subset_of_object h
  simp only [← resolveFields_eq_ok_iff hfields]
  rw [Resolver.resolveIn]
  split
  next hfree =>
    rw [bind_eq_ok_iff]
    simp only [hfree, pure_eq_ok_iff]
    simp [and_comm, eq_comm]
  next reference hreference =>
    split
    next hlocal => simp [hreference, hlocal, direct]
    next pointer hlocal =>
      split
      next hopen => simp [hreference, hlocal, hopen, direct]
      next hclosed =>
        split
        next hnone => simp [hreference, hlocal, hnone, direct]
        next target htarget =>
          have htargetSub := pointers_subset_of_pointer? htarget
          refine (resolveTarget_eq_ok_iff htargetSub hfields).trans ?_
          simp [hreference, hlocal, hclosed, htarget]
  next other hother hreference =>
    -- Where the reference is no string, resolving fails, and so does either disjunct.
    constructor
    · simp [direct]
    · rintro (⟨hfree, -⟩ | ⟨reference, _, _, _, _, hr, -⟩)
      · simp [hreference] at hfree
      · exact absurd (Option.some.inj (hreference.symm.trans hr)) (hother reference)

/-! ## Soundness -/

theorem beside_subset (fields : List (String × Json)) : beside fields ⊆ fields :=
  List.filter_subset_self fields

theorem pointers_subset_of_mem_items {items : List Json} {x : Json} (hx : x ∈ items) :
    pointers x ⊆ pointers (.array items) := by
  obtain ⟨n, hn⟩ := List.getElem?_of_mem hx
  rw [pointers]
  exact pointers_subset_of_getElem? hn

theorem pointers_subset_of_mem_fields {entry : String × Json} {fields : List (String × Json)}
    (hentry : entry ∈ fields) : pointers entry.2 ⊆ pointers (.object fields) := by
  rw [pointers]
  induction fields with
  | nil => cases hentry
  | cons first rest ih =>
    intro p hp
    rw [pointersOfFields]
    rcases List.mem_cons.1 hentry with rfl | hrest
    · simp [hp]
    · simp [ih hrest hp]

theorem sizeOf_lt_of_mem_fields {entry : String × Json} {fields : List (String × Json)}
    (hentry : entry ∈ fields) : sizeOf entry.2 < sizeOf (Json.object fields) := by
  have hlt : sizeOf entry < sizeOf fields := List.sizeOf_lt_of_mem hentry
  obtain ⟨name, x⟩ := entry
  simp only [Prod.mk.sizeOf_spec] at hlt
  simp only [Json.object.sizeOf_spec]
  omega

/-- Lists related one by one stay so under what holds of elements that are there. -/
theorem forall₂_of_mem {α β : Type} {rel rel' : α → β → Prop} {xs : List α} {ys : List β}
    (h : List.Forall₂ rel xs ys) (himp : ∀ x ∈ xs, ∀ y, rel x y → rel' x y) :
    List.Forall₂ rel' xs ys :=
  ((List.forall₂_and_left xs ys).2 ⟨fun _ hx => hx, h⟩).imp fun x y ⟨hx, hxy⟩ =>
    himp x hx y hxy

/-- A value that is neither an array nor an object resolves to itself alone. -/
theorem eq_of_resolves_scalar {v w : Json} (hsub : pointers v ⊆ pointers root)
    (hitems : ∀ items, v ≠ .array items) (hfields : ∀ fields, v ≠ .object fields)
    (hok : direct.resolveIn root stack v hsub = .ok w) : v = w := by
  rw [Resolver.resolveIn] at hok
  · exact Except.ok.inj hok
  · exact fun fields _ hv _ => hfields fields hv
  · exact fun items _ hv _ => hitems items hv

/-- What resolving comes to is what the value stands for, whatever is open. -/
theorem expands_of_resolves (stack : List String) :
    ∀ (v : Json) {w : Json}, Resolves root stack v w → Expands root v w
  | .null, _, ⟨hsub, hok⟩ => eq_of_resolves_scalar hsub (by simp) (by simp) hok ▸ .null
  | .bool b, _, ⟨hsub, hok⟩ => eq_of_resolves_scalar hsub (by simp) (by simp) hok ▸ .bool b
  | .number n, _, ⟨hsub, hok⟩ => eq_of_resolves_scalar hsub (by simp) (by simp) hok ▸ .number n
  | .string s, _, ⟨hsub, hok⟩ => eq_of_resolves_scalar hsub (by simp) (by simp) hok ▸ .string s
  | .array items, w, ⟨hsub, hok⟩ => by
    obtain ⟨expanded, rfl, hall⟩ := (resolves_array_iff hsub).1 hok
    refine .array (forall₂_of_mem hall fun x hx y hxy => ?_)
    have hsize := List.sizeOf_lt_of_mem hx
    exact expands_of_resolves stack x hxy
  | .object fields, w, ⟨hsub, hok⟩ => by
    have hmember : ∀ entry ∈ fields, ∀ other, SameName (Resolves root stack) entry other →
        SameName (Expands root) entry other := by
      rintro entry hentry other ⟨hname, hvalue⟩
      have hsize := sizeOf_lt_of_mem_fields hentry
      exact ⟨hname, expands_of_resolves stack entry.2 hvalue⟩
    -- The members are smaller at the same stack; the target is resolved with one more
    -- pointer open, however large it is.
    rcases (resolves_object_iff hsub).1 hok with ⟨hfree, expanded, rfl, hall⟩ |
      ⟨reference, pointer, target, base, siblings, hreference, hlocal, hclosed, htarget,
        hbase, hall, hoverlay⟩
    · obtain ⟨hnames, hvalues⟩ := forall₂_sameName_iff.1 (forall₂_of_mem hall hmember)
      exact .object hfree hnames hvalues
    · have hpointer : pointer ∈ pointers root :=
        hsub (by simpa [pointers] using mem_pointersOfFields hreference hlocal)
      have hfewer := closedPointers_length_lt hpointer hclosed
      obtain ⟨hnames, hvalues⟩ := forall₂_sameName_iff.1
        (forall₂_of_mem hall fun e he => hmember e (beside_subset fields he))
      exact .reference hreference hlocal htarget
        (expands_of_resolves (pointer :: stack) target hbase) hnames hvalues hoverlay
termination_by v => ((closedPointers root stack).length, sizeOf v)
decreasing_by
  · exact Prod.Lex.right _ (by simp only [Json.array.sizeOf_spec]; omega)
  · exact Prod.Lex.right _ hsize
  · exact Prod.Lex.left _ _ hfewer

/-! ## What a value needs -/

/-- Induction on a derivation, with the hypothesis at every place of a list in it. -/
@[elab_as_elim]
theorem Expands.induction {motive : (v w : Json) → Expands root v w → Prop}
    (null : motive .null .null .null) (bool : ∀ b, motive (.bool b) (.bool b) (.bool b))
    (number : ∀ n, motive (.number n) (.number n) (.number n))
    (string : ∀ s, motive (.string s) (.string s) (.string s))
    (array : ∀ {items expanded} h, List.Forall₂ (fun x y => ∃ h, motive x y h) items expanded →
      motive (.array items) (.array expanded) h)
    (object : ∀ {fields expanded} h, Fields.get? referenceKey fields = none →
      List.Forall₂ (SameName fun x y => ∃ h, motive x y h) fields expanded →
      motive (.object fields) (.object expanded) h)
    (reference : ∀ {fields reference pointer target base w siblings} h,
      Fields.get? referenceKey fields = some (.string reference) →
      localPointer? reference = some pointer → root.pointer? pointer = some target →
      (hbase : Expands root target base) → motive target base hbase →
      List.Forall₂ (SameName fun x y => ∃ h, motive x y h) (beside fields) siblings →
      overlay? base siblings = some w → motive (.object fields) w h)
    {v w : Json} (h : Expands root v w) : motive v w h := by
  refine @Expands.rec root motive
    (fun items expanded _ => List.Forall₂ (fun x y => ∃ h, motive x y h) items expanded)
    null bool number string ?_ ?_ ?_ ?_ ?_ _ _ h
  · intro items expanded _ hall
    exact array _ hall
  · intro fields expanded hfree hnames _ hall
    exact object _ hfree (forall₂_sameName_iff.2 ⟨hnames, hall⟩)
  · intro fields text pointer target base w siblings hreference hlocal htarget hbase hnames _
      hoverlay ihbase hall
    exact reference _ hreference hlocal htarget hbase ihbase
      (forall₂_sameName_iff.2 ⟨hnames, hall⟩) hoverlay
  · exact List.Forall₂.nil
  · intro _ _ _ _ h _ hfirst hrest
    exact List.Forall₂.cons ⟨h, hfirst⟩ hrest

/-- The first value has an own place in every derivation for the second one. -/
inductive NeededBy (root : Json) : Json → Json → Prop
  | item {items : List Json} {x : Json} (hx : x ∈ items) : NeededBy root x (.array items)
  | member {fields : List (String × Json)} {entry : String × Json}
      (hentry : entry ∈ beside fields) : NeededBy root entry.2 (.object fields)
  | target {fields : List (String × Json)} {reference pointer : String} {target : Json}
      (hreference : Fields.get? referenceKey fields = some (.string reference))
      (hlocal : localPointer? reference = some pointer)
      (htarget : root.pointer? pointer = some target) : NeededBy root target (.object fields)

theorem beside_eq_self {fields : List (String × Json)}
    (hfree : Fields.get? referenceKey fields = none) : beside fields = fields := by
  induction fields with
  | nil => rfl
  | cons entry rest ih =>
    obtain ⟨name, x⟩ := entry
    by_cases hname : name = referenceKey
    · simp [Fields.get?, hname] at hfree
    · rw [beside_cons_of_ne hname, ih (by simpa [Fields.get?, hname] using hfree)]

/-- What is related to a place on the right has a place on the left. -/
theorem exists_of_forall₂ {α β : Type} {rel : α → β → Prop} {xs : List α} {ys : List β}
    (h : List.Forall₂ rel xs ys) {x : α} (hx : x ∈ xs) : ∃ y, rel x y := by
  induction h with
  | nil => cases hx
  | cons hfirst _ ih =>
    rcases List.mem_cons.1 hx with rfl | hrest
    · exact ⟨_, hfirst⟩
    · exact ih hrest

/-- A finite derivation leaves no infinite chain of needs. -/
theorem Expands.acc {v w : Json} (h : Expands root v w) : Acc (NeededBy root) v := by
  induction h using Expands.induction with
  | null => exact Acc.intro _ fun _ h => nomatch h
  | bool => exact Acc.intro _ fun _ h => nomatch h
  | number => exact Acc.intro _ fun _ h => nomatch h
  | string => exact Acc.intro _ fun _ h => nomatch h
  | array _ hall =>
    refine Acc.intro _ fun u hu => ?_
    cases hu with
    | item hx =>
      obtain ⟨_, _, hacc⟩ := exists_of_forall₂ hall hx
      exact hacc
  | object _ hfree hall =>
    refine Acc.intro _ fun u hu => ?_
    cases hu with
    | member hentry =>
      obtain ⟨_, _, _, hacc⟩ := exists_of_forall₂ hall (beside_subset _ hentry)
      exact hacc
    | target hreference => simp [hfree] at hreference
  | reference _ hreference hlocal htarget _ hbase hall _ =>
    refine Acc.intro _ fun u hu => ?_
    cases hu with
    | member hentry =>
      obtain ⟨_, _, _, hacc⟩ := exists_of_forall₂ hall hentry
      exact hacc
    | target hreference' hlocal' htarget' =>
      -- There is only one target, the one of the derivation.
      obtain rfl := Json.string.inj (Option.some.inj (hreference.symm.trans hreference'))
      obtain rfl := Option.some.inj (hlocal.symm.trans hlocal')
      obtain rfl := Option.some.inj (htarget.symm.trans htarget')
      exact hbase

theorem not_self_of_acc {α : Type} {rel : α → α → Prop} {a : α} (h : Acc rel a) : ¬ rel a a := by
  induction h with
  | intro a _ ih => exact fun haa => ih a haa haa

/-- A value with a derivation does not need itself, in any number of steps. -/
theorem Expands.not_needs_itself {v w : Json} (h : Expands root v w) :
    ¬ Relation.TransGen (NeededBy root) v v :=
  not_self_of_acc h.acc.transGen

/-! ## Completeness -/

/-- The targets of the open pointers need `v`. -/
def OpenFor (root : Json) (stack : List String) (v : Json) : Prop :=
  ∀ p ∈ stack, ∀ target, root.pointer? p = some target →
    Relation.ReflTransGen (NeededBy root) v target

theorem OpenFor.step {u v : Json} (h : OpenFor root stack v) (hu : NeededBy root u v) :
    OpenFor root stack u :=
  fun p hp target htarget => Relation.ReflTransGen.head hu (h p hp target htarget)

theorem OpenFor.push {pointer : String} {target : Json} (h : OpenFor root stack target)
    (htarget : root.pointer? pointer = some target) :
    OpenFor root (pointer :: stack) target := by
  intro p hp target' htarget'
  rcases List.mem_cons.1 hp with rfl | hp
  · obtain rfl : target = target' := Option.some.inj (htarget.symm.trans htarget')
    exact Relation.ReflTransGen.refl
  · exact h p hp target' htarget'

/-- A pointer that is open for a value cannot be the pointer of that value, if its
    target has a derivation. -/
theorem OpenFor.not_mem {v target base : Json} {pointer : String} (h : OpenFor root stack v)
    (hneeds : NeededBy root target v) (htarget : root.pointer? pointer = some target)
    (hbase : Expands root target base) : pointer ∉ stack :=
  fun hopen => hbase.not_needs_itself (Relation.TransGen.head' hneeds (h pointer hopen _ htarget))

theorem resolves_of_mem_fields {fields expanded : List (String × Json)}
    (hall : List.Forall₂ (SameName fun x y => ∃ _ : Expands root x y, ∀ stack,
      pointers x ⊆ pointers root → OpenFor root stack x → Resolves root stack x y)
      fields expanded)
    (hsub : ∀ entry ∈ fields, pointers entry.2 ⊆ pointers root)
    (hopen : ∀ entry ∈ fields, OpenFor root stack entry.2) :
    List.Forall₂ (SameName (Resolves root stack)) fields expanded :=
  forall₂_of_mem hall fun entry hentry _ ⟨hname, _, hvalue⟩ =>
    ⟨hname, hvalue stack (hsub entry hentry) (hopen entry hentry)⟩

/-- What a value stands for is found under every stack whose targets need it. -/
theorem resolves_of_expands {v w : Json} (h : Expands root v w) :
    ∀ stack, pointers v ⊆ pointers root → OpenFor root stack v → Resolves root stack v w := by
  induction h using Expands.induction with
  | null => exact fun _ hsub _ => ⟨hsub, by rw [Resolver.resolveIn] <;> simp [pure_eq_ok_iff]⟩
  | bool => exact fun _ hsub _ => ⟨hsub, by rw [Resolver.resolveIn] <;> simp [pure_eq_ok_iff]⟩
  | number => exact fun _ hsub _ => ⟨hsub, by rw [Resolver.resolveIn] <;> simp [pure_eq_ok_iff]⟩
  | string => exact fun _ hsub _ => ⟨hsub, by rw [Resolver.resolveIn] <;> simp [pure_eq_ok_iff]⟩
  | array _ hall =>
    intro stack hsub hopen
    refine ⟨hsub, (resolves_array_iff hsub).2 ⟨_, rfl, ?_⟩⟩
    refine forall₂_of_mem hall fun x hx y hxy => hxy.2 stack ?_ (hopen.step (.item hx))
    exact fun p hp => hsub (pointers_subset_of_mem_items hx hp)
  | object _ hfree hall =>
    intro stack hsub hopen
    refine ⟨hsub, (resolves_object_iff hsub).2 (Or.inl ⟨hfree, _, rfl, ?_⟩)⟩
    refine resolves_of_mem_fields hall (fun entry hentry p hp => ?_) fun entry hentry => ?_
    · exact hsub (pointers_subset_of_mem_fields hentry hp)
    · exact hopen.step (.member (by rwa [beside_eq_self hfree]))
  | reference _ hreference hlocal htarget hbase ihbase hall hoverlay =>
    intro stack hsub hopen
    have hneeds := NeededBy.target hreference hlocal htarget
    -- An open pointer of this value would make the target need itself.
    have hclosed := hopen.not_mem hneeds htarget hbase
    refine ⟨hsub, (resolves_object_iff hsub).2 (Or.inr ⟨_, _, _, _, _, hreference, hlocal,
      hclosed, htarget, ?_, ?_, hoverlay⟩)⟩
    · have hpush := (hopen.step hneeds).push htarget
      exact ihbase _ (pointers_subset_of_pointer? htarget) hpush
    · -- The pointer is closed again when the members beside it are resolved.
      refine resolves_of_mem_fields hall (fun entry hentry p hp => ?_) fun entry hentry => ?_
      · exact hsub (pointers_subset_of_mem_fields (beside_subset _ hentry) hp)
      · exact hopen.step (.member hentry)

/-- Nothing is open at first, so a document that stands for something resolves to it. -/
theorem resolve_eq_ok_of_expands {w : Json} (h : Expands root root w) : resolve root = .ok w := by
  have hnone : OpenFor root [] root := fun p hp => absurd hp List.not_mem_nil
  obtain ⟨_, hok⟩ := resolves_of_expands h [] (List.Subset.refl _) hnone
  exact hok

/-- Resolving a document succeeds with exactly the value it stands for: the stack of
    open pointers refuses no document that has a derivation, and lets none through
    that has not. -/
theorem resolve_eq_ok_iff_expands (root w : Json) :
    resolve root = .ok w ↔ Expands root root w := by
  constructor
  · exact fun hok => expands_of_resolves [] root ⟨_, hok⟩
  · exact resolve_eq_ok_of_expands

end Rubric.Json
