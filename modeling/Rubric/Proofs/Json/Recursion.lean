/-
  Rubric.Proofs.Json.Recursion

  How deep resolving calls itself.

  A reference sends resolving to any place of the document, so no value it comes to needs
  to be smaller than the one before. What ends it are the open pointers: none is opened
  twice, and all of them are pointers of references of the document. Between two openings
  the values do get smaller.

  A resolver that counts makes the same calls as resolving does, as long as they are not
  nested too deep and have the open pointers that they should have; it gives up at any other
  call. With as much depth as the document has room for it never gives up, and what comes of
  it is what resolving comes to.
-/
import Mathlib.Data.Finset.Card
import Rubric.Proofs.Json.Expansion
import Rubric.Proofs.Json.Fields

namespace Rubric.Json

/-! ## Attempts -/

/-- What comes of resolving: a result or an error, or nothing where it was given up. -/
abbrev Attempt (α : Type) := ExceptT ReferenceError Option α

namespace Attempt

variable {α : Type}

/-- The attempt that came to an end. -/
def done (outcome : Except ReferenceError α) : Attempt α := ExceptT.mk (some outcome)

/-- The attempt that was given up. -/
def givenUp : Attempt α := ExceptT.mk none

end Attempt

/-! ## Calls inside of calls -/

/-- The open pointers are pairwise distinct, and each is that of a reference of the
    document. -/
def AreReferences (root : Json) (stack : List String) : Prop :=
  stack.Nodup ∧ ∀ p ∈ stack, p ∈ pointers root

instance (root : Json) (stack : List String) : Decidable (AreReferences root stack) :=
  inferInstanceAs (Decidable (_ ∧ _))

/-- Resolving that makes as many calls inside of each other as it is given, and gives up
    where that is not enough. It gives up as well where a call does not have distinct
    references of the document as its open pointers. -/
def Resolver.counting (root : Json) : Resolver (ReaderT Nat Attempt) where
  fail e _ := .done (.error e)
  call stack run limit :=
    match limit with
    | 0 => .givenUp
    | limit + 1 => if AreReferences root stack then run limit else .givenUp

/-- Resolves a document with at most `limit` calls inside of each other, not counting the
    outermost one. -/
def resolveWithin (root : Json) (limit : Nat) : Attempt Json :=
  (Resolver.counting root).resolveAll root limit

open Resolver (counting direct)

variable {root : Json} {stack : List String}

/-- There are no more open pointers than distinct references. -/
theorem AreReferences.length_le (h : AreReferences root stack) :
    stack.length ≤ (pointers root).toFinset.card := by
  obtain ⟨hnodup, hmem⟩ := h
  rw [← List.toFinset_card_of_nodup hnodup]
  exact Finset.card_le_card fun p hp => List.mem_toFinset.2 (hmem p (List.mem_toFinset.1 hp))

/-- A step that does not give up goes on with what comes of it. -/
theorem bind_eq_done {α β : Type} {limit : Nat} {first : ReaderT Nat Attempt α}
    {next : α → ReaderT Nat Attempt β} {outcome : Except ReferenceError α}
    {next' : α → Except ReferenceError β} (hfirst : first limit = .done outcome)
    (hnext : ∀ x, next x limit = .done (next' x)) :
    (first >>= next) limit = .done (outcome >>= next') := by
  show (first limit >>= fun x => next x limit) = _
  rw [hfirst]
  cases outcome with
  | error e => rfl
  | ok x => exact hnext x

section
variable {limit : Nat}

theorem counting_resolveItems {items : List Json} (h : pointersOfItems items ⊆ pointers root)
    (hcall : ∀ x ∈ items, ∀ hx,
      (counting root).call stack ((counting root).resolveIn root stack x hx) limit =
        .done (direct.resolveIn root stack x hx)) :
    (counting root).resolveItems root stack items h limit =
      .done (direct.resolveItems root stack items h) := by
  induction items with
  | nil =>
    rw [Resolver.resolveItems, Resolver.resolveItems]
    rfl
  | cons x xs ih =>
    obtain ⟨hfirst, hrest⟩ := List.forall_mem_cons.1 hcall
    rw [Resolver.resolveItems, Resolver.resolveItems]
    exact bind_eq_done (hfirst _) fun y => bind_eq_done (ih _ hrest) fun ys => rfl

section
variable {fields : List (String × Json)} (h : pointersOfFields fields ⊆ pointers root)
  (hcall : ∀ entry ∈ fields, ∀ hx,
    (counting root).call stack ((counting root).resolveIn root stack entry.2 hx) limit =
      .done (direct.resolveIn root stack entry.2 hx))
include hcall

theorem counting_resolveFields :
    (counting root).resolveFields root stack fields h limit =
      .done (direct.resolveFields root stack fields h) := by
  induction fields with
  | nil =>
    rw [Resolver.resolveFields, Resolver.resolveFields]
    rfl
  | cons entry rest ih =>
    obtain ⟨hfirst, hrest⟩ := List.forall_mem_cons.1 hcall
    rw [Resolver.resolveFields, Resolver.resolveFields]
    exact bind_eq_done (hfirst _) fun y => bind_eq_done (ih _ hrest) fun ys => rfl

theorem counting_resolveOver (reference : String) (base : Json) :
    (counting root).resolveOver root stack reference fields h base limit =
      .done (direct.resolveOver root stack reference fields h base) := by
  induction fields generalizing base with
  | nil =>
    rw [Resolver.resolveOver, Resolver.resolveOver]
    rfl
  | cons entry rest ih =>
    obtain ⟨hfirst, hrest⟩ := List.forall_mem_cons.1 hcall
    rw [Resolver.resolveOver, Resolver.resolveOver]
    split
    · exact ih _ hrest base
    · refine bind_eq_done (hfirst _) fun y => ?_
      cases base with
      | object target => exact ih _ hrest _
      | _ => rfl

end

end

/-! ## The depth of the calls -/

theorem depth_le_of_child? {step : String} {value target : Json}
    (h : child? step value = some target) : target.depth ≤ value.depth := by
  unfold child? at h
  split at h
  · have hle := depth_le_of_mem_fields (Fields.mem_of_get? h)
    exact Nat.le_succ_of_le hle
  · obtain ⟨n, -, hn⟩ := Option.bind_eq_some_iff.1 h
    exact Nat.le_succ_of_le (depth_le_of_mem (List.mem_of_getElem? hn))
  · cases h

theorem depth_le_of_follow? {steps : List String} {value target : Json}
    (h : follow? steps value = some target) : target.depth ≤ value.depth := by
  induction steps generalizing value with
  | nil =>
    obtain rfl := Option.some.inj h
    exact Nat.le_refl _
  | cons step steps ih =>
    obtain ⟨child, hchild, hfollow⟩ := Option.bind_eq_some_iff.1 h
    exact (ih hfollow).trans (depth_le_of_child? hchild)

/-- A pointer names a value that is nested no deeper than the document. -/
theorem depth_le_of_pointer? {value target : Json} {pointer : String}
    (h : value.pointer? pointer = some target) : target.depth ≤ value.depth := by
  obtain ⟨steps, -, hsteps⟩ := Option.bind_eq_some_iff.1 h
  exact depth_le_of_follow? hsteps

section
variable {m : Type → Type} [Monad m] (r : Resolver m) {fields : List (String × Json)}
  (h : pointers (.object fields) ⊆ pointers root)

theorem resolveIn_members (hfree : Fields.get? referenceKey fields = none) :
    r.resolveIn root stack (.object fields) h = (do
      let fields ← r.resolveFields root stack fields (subset_of_object h)
      pure (.object fields)) := by
  rw [Resolver.resolveIn]
  split <;> simp_all

variable {reference pointer : String}
  (hget : Fields.get? referenceKey fields = some (.string reference))
  (hlocal : localPointer? reference = some pointer)
include hget hlocal

theorem resolveIn_circular (hopen : pointer ∈ stack) :
    r.resolveIn root stack (.object fields) h = r.fail (.circular reference) := by
  rw [Resolver.resolveIn]
  grind

theorem resolveIn_target {target : Json} (hclosed : pointer ∉ stack)
    (htarget : root.pointer? pointer = some target) :
    r.resolveIn root stack (.object fields) h = (do
      let base ← r.call (pointer :: stack)
        (r.resolveIn root (pointer :: stack) target (pointers_subset_of_pointer? htarget))
      r.resolveOver root stack reference fields (subset_of_object h) base) := by
  rw [Resolver.resolveIn]
  grind

end

/-- Resolving an object comes to its members, or fails, or calls itself for the target of a
    reference that is not open, whatever the resolver makes of that. -/
theorem resolveIn_object_cases {fields : List (String × Json)}
    (h : pointers (.object fields) ⊆ pointers root) :
    (∀ {m : Type → Type} [Monad m] (r : Resolver m),
      r.resolveIn root stack (.object fields) h = (do
        let fields ← r.resolveFields root stack fields (subset_of_object h)
        pure (.object fields))) ∨
    (∃ e, ∀ {m : Type → Type} [Monad m] (r : Resolver m),
      r.resolveIn root stack (.object fields) h = r.fail e) ∨
    ∃ reference pointer target hsub, pointer ∈ pointers root ∧ pointer ∉ stack ∧
      root.pointer? pointer = some target ∧
      ∀ {m : Type → Type} [Monad m] (r : Resolver m),
        r.resolveIn root stack (.object fields) h = (do
          let base ← r.call (pointer :: stack)
            (r.resolveIn root (pointer :: stack) target hsub)
          r.resolveOver root stack reference fields (subset_of_object h) base) := by
  rcases hget : Fields.get? referenceKey fields with _ | value
  · exact .inl fun r => resolveIn_members r h hget
  cases value with
  | string reference =>
    rcases hlocal : localPointer? reference with _ | pointer
    · refine .inr (.inl ⟨.unsupported reference, fun r => ?_⟩)
      rw [Resolver.resolveIn]
      grind
    by_cases hopen : pointer ∈ stack
    · exact .inr (.inl ⟨.circular reference, fun r => resolveIn_circular r h hget hlocal hopen⟩)
    rcases htarget : root.pointer? pointer with _ | target
    · refine .inr (.inl ⟨.unresolved reference, fun r => ?_⟩)
      rw [Resolver.resolveIn]
      grind
    exact .inr (.inr ⟨reference, pointer, target, pointers_subset_of_pointer? htarget,
      subset_of_object h (mem_pointersOfFields hget hlocal), hopen, htarget,
      fun r => resolveIn_target r h hget hlocal hopen htarget⟩)
  | _ =>
    refine .inr (.inl ⟨.notText, fun r => ?_⟩)
    rw [Resolver.resolveIn]
    split <;> simp_all

/-- The calls made for a value are for less deep values under the same open pointers, or
    for the target of a reference, whose pointer is then open in addition. If they find
    what resolving comes to, so does the call for the value itself. -/
theorem counting_resolveIn {v : Json} {limit : Nat} (h : pointers v ⊆ pointers root)
    (hinner : ∀ x hx, x.depth < v.depth →
      (counting root).call stack ((counting root).resolveIn root stack x hx) limit =
        .done (direct.resolveIn root stack x hx))
    (htarget : ∀ pointer target hsub, pointer ∈ pointers root → pointer ∉ stack →
      root.pointer? pointer = some target → 0 < v.depth →
      (counting root).call (pointer :: stack)
          ((counting root).resolveIn root (pointer :: stack) target hsub) limit =
        .done (direct.resolveIn root (pointer :: stack) target hsub)) :
    (counting root).resolveIn root stack v h limit = .done (direct.resolveIn root stack v h) := by
  cases v with
  | array items =>
    rw [Resolver.resolveIn, Resolver.resolveIn]
    exact bind_eq_done (counting_resolveItems _ fun x hx hsub => hinner x hsub
      (Nat.lt_succ_of_le (depth_le_of_mem hx))) fun ys => rfl
  | object fields =>
    have hfields : pointersOfFields fields ⊆ pointers root := subset_of_object h
    have hcall : ∀ entry ∈ fields, ∀ hx,
        (counting root).call stack ((counting root).resolveIn root stack entry.2 hx) limit =
          .done (direct.resolveIn root stack entry.2 hx) :=
      fun entry hentry hsub => hinner entry.2 hsub
        (Nat.lt_succ_of_le (depth_le_of_mem_fields hentry))
    obtain hmembers | ⟨e, hfails⟩ | ⟨reference, pointer, target, hsub, hmem, hclosed, hpointer,
      hcalls⟩ := @resolveIn_object_cases root stack fields h
    · rw [hmembers, hmembers]
      exact bind_eq_done (counting_resolveFields hfields hcall) fun ys => rfl
    · rw [hfails, hfails]
      rfl
    · rw [hcalls, hcalls]
      exact bind_eq_done (htarget pointer target hsub hmem hclosed hpointer (Nat.succ_pos _))
        fun base => counting_resolveOver hfields hcall reference base
  | _ =>
    -- A value that is neither an array nor an object comes to itself, without a call.
    rw [Resolver.resolveIn, Resolver.resolveIn]
    · rfl
    all_goals simp

/-- The number of references of the document that are not open, as many times as the
    document is deep, and the depth of the value: that many calls inside of each other are
    enough. -/
theorem counting_resolveIn_eq {v : Json} {limit : Nat} (h : pointers v ⊆ pointers root)
    (hstack : AreReferences root stack)
    (hlimit : ((pointers root).toFinset.card - stack.length) * root.depth + v.depth ≤ limit) :
    (counting root).resolveIn root stack v h limit = .done (direct.resolveIn root stack v h) := by
  induction limit generalizing stack v with
  | zero =>
    have hdepth : v.depth = 0 := by omega
    apply counting_resolveIn h
    · intro x _ hx
      omega
    · intro _ _ _ _ _ _ hpos
      omega
  | succ limit ih =>
    apply counting_resolveIn h
    · intro x hx hlt
      exact (if_pos hstack).trans (ih hx hstack (by omega))
    · intro pointer target hsub hmem hclosed hpointer hpos
      -- One more pointer is open, which leaves room for the depth of any target.
      have hopened : AreReferences root (pointer :: stack) :=
        ⟨List.nodup_cons.2 ⟨hclosed, hstack.1⟩, List.forall_mem_cons.2 ⟨hmem, hstack.2⟩⟩
      have hdepth : target.depth ≤ root.depth := depth_le_of_pointer? hpointer
      have hroom : (pointer :: stack).length ≤ (pointers root).toFinset.card :=
        hopened.length_le
      refine (if_pos hopened).trans (ih hsub hopened ?_)
      rw [List.length_cons] at hroom ⊢
      have hsplit : (pointers root).toFinset.card - stack.length
          = (pointers root).toFinset.card - (stack.length + 1) + 1 := by omega
      rw [hsplit, Nat.add_mul, Nat.one_mul] at hlimit
      omega

/-- **Resolving ends on every document.** Whatever references a document has, resolving
    it comes to a result or an error. No call is nested deeper in the outermost one than
    the number of distinct references, increased by one, times the depth of the document;
    and in every call the open pointers are pairwise distinct references of the document.
    An attempt that would give up at any other call comes to the same. -/
theorem resolving_ends (root : Json) {limit : Nat}
    (hlimit : ((pointers root).toFinset.card + 1) * root.depth ≤ limit) :
    (resolveWithin root limit).run = some (resolve root) := by
  have hempty : AreReferences root [] := ⟨List.nodup_nil, by simp⟩
  rw [Nat.succ_mul] at hlimit
  rw [resolveWithin, Resolver.resolveAll, counting_resolveIn_eq _ hempty hlimit]
  rfl

/-- One place has two pointers here, so its reference is opened twice before it is met
    again under a pointer that is open. -/
theorem one_place_under_two_pointers :
    let root : Json := .object [("c", .object [("$ref", .string "#/a~b")]),
      ("a~b", .object [("$ref", .string "#/a~0b")])]
    ((pointers root).toFinset.card + 1) * root.depth ≤ 6 ∧
      (resolveWithin root 6).run = some (resolve root) ∧
      resolve root = .error (.circular "#/a~0b") := by
  intro root
  have hlimit : ((pointers root).toFinset.card + 1) * root.depth ≤ 6 := by decide +kernel
  have hopened : localPointer? "#/a~b" = some "/a~b" := by decide
  have hlocal : localPointer? "#/a~0b" = some "/a~0b" := by decide
  have hmember : pointers (.object [("$ref", .string "#/a~b")]) ⊆ pointers root := by
    decide +kernel
  have htarget : pointers (.object [("$ref", .string "#/a~0b")]) ⊆ pointers root := by
    decide +kernel
  -- The second pointer is open in the last of these calls, and only the first in the second.
  have hthird : direct.resolveIn root ["/a~0b", "/a~b"] _ htarget =
      .error (.circular "#/a~0b") :=
    resolveIn_circular direct htarget rfl hlocal (by decide)
  have hsecond : direct.resolveIn root ["/a~b"] _ htarget = .error (.circular "#/a~0b") := by
    rw [resolveIn_target direct htarget rfl hlocal (by decide) rfl]
    exact congrArg (· >>= _) hthird
  have hfirst : direct.resolveIn root [] _ hmember = .error (.circular "#/a~0b") := by
    rw [resolveIn_target direct hmember rfl hopened (by decide) rfl]
    exact congrArg (· >>= _) hsecond
  refine ⟨hlimit, resolving_ends root hlimit, ?_⟩
  rw [resolve, Resolver.resolveAll, resolveIn_members _ _ rfl, Resolver.resolveFields]
  exact congrArg (fun first => (first >>= _) >>= _) hfirst

end Rubric.Json
