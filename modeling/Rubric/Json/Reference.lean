/-
  Rubric.Json.Reference

  Replacing references by what they refer to.

  An object with a member `$ref` stands for the value its pointer names in the
  same document; the other members of the object are put over that value. A
  reference that is met again while its own target is being resolved would never
  end and is refused. Every reference met is one of the finitely many of the
  document, so the stack of open references cannot grow for ever; that is what
  ends the recursion.

  The way through a document is the same whoever follows it. What a failure is, and
  what a call inside of another one does, is left to a resolver.
-/
import Rubric.Json.Pointer
import Rubric.Failure

namespace Rubric.Json

/-- Why references cannot be resolved. -/
inductive ReferenceError where
  | notText
  | unsupported (reference : String)
  | circular (reference : String)
  | unresolved (reference : String)
  | siblings (reference : String)
deriving DecidableEq, Repr, Inhabited

/-- The text of a reference error. -/
def ReferenceError.toText : ReferenceError → String
  | .notText => "`$ref` must be a string"
  | .unsupported r => s!"Unsupported reference \"{r}\""
  | .circular r => s!"Circular reference \"{r}\""
  | .unresolved r => s!"Unresolved reference \"{r}\""
  | .siblings r => s!"Reference \"{r}\" has sibling keys but does not point to a mapping"

/-- The name of the member that makes an object a reference. -/
def referenceKey : String := "$ref"

/-- The pointer of a reference into the same document. -/
def localPointer? (reference : String) : Option String :=
  match reference.toList with
  | '#' :: cs => some (String.ofList cs)
  | _ => none

/-- The pointer of the value of a member, if that is a reference into the same
    document. -/
def memberPointer (name : String) (value : Json) : List String :=
  if name = referenceKey then
    match value with
    | .string reference => (localPointer? reference).toList
    | _ => []
  else []

/-! ## The references of a value -/

mutual

/-- The pointers of all references in a value. -/
def pointers : Json → List String
  | .array items => pointersOfItems items
  | .object fields => pointersOfFields fields
  | _ => []

/-- The pointers of all references in items. -/
def pointersOfItems : List Json → List String
  | [] => []
  | x :: xs => pointers x ++ pointersOfItems xs

/-- The pointers of all references in members. -/
def pointersOfFields : List (String × Json) → List String
  | [] => []
  | (name, x) :: xs => memberPointer name x ++ (pointers x ++ pointersOfFields xs)

end

section
variable {l : List String}

theorem subset_of_items_cons {x : Json} {xs : List Json} (h : pointersOfItems (x :: xs) ⊆ l) :
    pointers x ⊆ l ∧ pointersOfItems xs ⊆ l := by
  rwa [pointersOfItems, List.append_subset] at h

theorem subset_of_fields_cons {name : String} {x : Json} {xs : List (String × Json)}
    (h : pointersOfFields ((name, x) :: xs) ⊆ l) :
    pointers x ⊆ l ∧ pointersOfFields xs ⊆ l := by
  rw [pointersOfFields, List.append_subset, List.append_subset] at h
  exact h.2

end

theorem pointers_subset_of_get? {name : String} {fields : List (String × Json)} {value : Json}
    (h : Fields.get? name fields = some value) :
    pointers value ⊆ pointersOfFields fields := by
  induction fields with
  | nil => simp [Fields.get?] at h
  | cons entry rest ih =>
    obtain ⟨n, v⟩ := entry
    unfold Fields.get? at h
    unfold pointersOfFields
    split at h
    · obtain rfl := Option.some.inj h
      intro p hp
      simp [hp]
    · intro p hp
      have hrest := ih h hp
      simp [hrest]

theorem mem_pointersOfFields {fields : List (String × Json)} {reference pointer : String}
    (h : Fields.get? referenceKey fields = some (.string reference))
    (hp : localPointer? reference = some pointer) : pointer ∈ pointersOfFields fields := by
  induction fields with
  | nil => simp [Fields.get?] at h
  | cons entry rest ih =>
    obtain ⟨n, v⟩ := entry
    unfold Fields.get? at h
    unfold pointersOfFields
    split at h
    · rename_i hn
      obtain rfl := Option.some.inj h
      simp [memberPointer, hn, hp]
    · have hrest := ih h
      simp [hrest]

theorem pointers_subset_of_getElem? {items : List Json} {n : Nat} {value : Json}
    (h : items[n]? = some value) : pointers value ⊆ pointersOfItems items := by
  induction items generalizing n with
  | nil => simp at h
  | cons x xs ih =>
    unfold pointersOfItems
    cases n with
    | zero =>
      obtain rfl : x = value := by simpa using h
      intro p hp
      simp [hp]
    | succ n =>
      intro p hp
      have hrest := ih (n := n) (by simpa using h) hp
      simp [hrest]

theorem pointers_subset_of_child? {step : String} {value target : Json}
    (h : child? step value = some target) : pointers target ⊆ pointers value := by
  unfold child? at h
  split at h
  · simpa [pointers] using pointers_subset_of_get? h
  · obtain ⟨n, -, hn⟩ := Option.bind_eq_some_iff.1 h
    simpa [pointers] using pointers_subset_of_getElem? hn
  · cases h

theorem pointers_subset_of_follow? {steps : List String} {value target : Json}
    (h : follow? steps value = some target) : pointers target ⊆ pointers value := by
  induction steps generalizing value with
  | nil => obtain rfl := Option.some.inj h; exact fun _ hp => hp
  | cons step steps ih =>
    obtain ⟨child, hc, hf⟩ := Option.bind_eq_some_iff.1 h
    exact fun p hp => pointers_subset_of_child? hc (ih hf hp)

theorem pointers_subset_of_pointer? {value target : Json} {pointer : String}
    (h : value.pointer? pointer = some target) : pointers target ⊆ pointers value := by
  obtain ⟨steps, -, hs⟩ := Option.bind_eq_some_iff.1 h
  exact pointers_subset_of_follow? hs

/-! ## Resolving -/

/-- The references of the document that are not open. -/
def closedPointers (root : Json) (stack : List String) : List String :=
  (pointers root).filter fun p => p ∉ stack

theorem closedPointers_length_lt {root : Json} {stack : List String} {p : String}
    (hp : p ∈ pointers root) (hs : p ∉ stack) :
    (closedPointers root (p :: stack)).length < (closedPointers root stack).length := by
  have hfilter : closedPointers root (p :: stack)
      = (closedPointers root stack).filter fun q => q ≠ p := by
    unfold closedPointers
    rw [List.filter_filter]
    exact List.filter_congr fun q _ => by simp
  have hmem : p ∈ closedPointers root stack := List.mem_filter.2 ⟨hp, by simpa using hs⟩
  rw [hfilter]
  exact List.length_filter_lt_length_iff_exists.2 ⟨p, hmem, by simp⟩

/-- What resolving leaves open. -/
structure Resolver (m : Type → Type) where
  /-- Ends with an error. -/
  fail {α : Type} : ReferenceError → m α
  /-- Makes a call of resolving in which some pointers are open. -/
  call : (stack : List String) → m Json → m Json

namespace Resolver

variable {m : Type → Type} [Monad m]

mutual

/-- A value with its references replaced. `stack` holds the open pointers. -/
def resolveIn (r : Resolver m) (root : Json) (stack : List String) (value : Json)
    (h : pointers value ⊆ pointers root) : m Json :=
  match value with
  | .object fields =>
    have hf : pointersOfFields fields ⊆ pointers root := by simpa [pointers] using h
    match hget : Fields.get? referenceKey fields with
    | none => do
      let fields ← resolveFields r root stack fields hf
      pure (.object fields)
    | some (.string reference) =>
      match hp : localPointer? reference with
      | none => r.fail (.unsupported reference)
      | some pointer =>
        if hs : pointer ∈ stack then r.fail (.circular reference)
        else
          match ht : root.pointer? pointer with
          | none => r.fail (.unresolved reference)
          | some target => do
            -- The pointer is open for its target alone, and not for the members beside it.
            let base ← r.call (pointer :: stack)
              (resolveIn r root (pointer :: stack) target (pointers_subset_of_pointer? ht))
            resolveOver r root stack reference fields hf base
    | some _ => r.fail .notText
  | .array items => do
    let items ← resolveItems r root stack items (by simpa [pointers] using h)
    pure (.array items)
  | value => pure value
termination_by ((closedPointers root stack).length, sizeOf value)
decreasing_by
  · exact Prod.Lex.right _ (by simp only [Json.object.sizeOf_spec]; omega)
  · exact Prod.Lex.left _ _ (closedPointers_length_lt (hf (mem_pointersOfFields hget hp)) hs)
  · exact Prod.Lex.right _ (by simp only [Json.object.sizeOf_spec]; omega)
  · exact Prod.Lex.right _ (by simp only [Json.array.sizeOf_spec]; omega)

/-- Items with their references replaced. -/
def resolveItems (r : Resolver m) (root : Json) (stack : List String) (items : List Json)
    (h : pointersOfItems items ⊆ pointers root) : m (List Json) :=
  match items with
  | [] => pure []
  | x :: xs => do
    let x ← r.call stack (resolveIn r root stack x (subset_of_items_cons h).1)
    let xs ← resolveItems r root stack xs (subset_of_items_cons h).2
    pure (x :: xs)
termination_by ((closedPointers root stack).length, sizeOf items)
decreasing_by
  · exact Prod.Lex.right _ (by simp only [List.cons.sizeOf_spec]; omega)
  · exact Prod.Lex.right _ (by simp only [List.cons.sizeOf_spec]; omega)

/-- Members with their references replaced. -/
def resolveFields (r : Resolver m) (root : Json) (stack : List String)
    (fields : List (String × Json)) (h : pointersOfFields fields ⊆ pointers root) :
    m (List (String × Json)) :=
  match fields with
  | [] => pure []
  | (name, x) :: xs => do
    let x ← r.call stack (resolveIn r root stack x (subset_of_fields_cons h).1)
    let xs ← resolveFields r root stack xs (subset_of_fields_cons h).2
    pure ((name, x) :: xs)
termination_by ((closedPointers root stack).length, sizeOf fields)
decreasing_by
  · exact Prod.Lex.right _ (by simp only [List.cons.sizeOf_spec, Prod.mk.sizeOf_spec]; omega)
  · exact Prod.Lex.right _ (by simp only [List.cons.sizeOf_spec, Prod.mk.sizeOf_spec]; omega)

/-- Puts the members beside a reference over the value it refers to. -/
def resolveOver (r : Resolver m) (root : Json) (stack : List String) (reference : String)
    (fields : List (String × Json)) (h : pointersOfFields fields ⊆ pointers root)
    (base : Json) : m Json :=
  match fields with
  | [] => pure base
  | (name, x) :: xs =>
    have hxs := subset_of_fields_cons h
    if name = referenceKey then resolveOver r root stack reference xs hxs.2 base
    else do
      let x ← r.call stack (resolveIn r root stack x hxs.1)
      match base with
      | .object target =>
        resolveOver r root stack reference xs hxs.2 (.object (Fields.insert name x target))
      | _ => r.fail (.siblings reference)
termination_by ((closedPointers root stack).length, sizeOf fields)
decreasing_by
  · exact Prod.Lex.right _ (by simp only [List.cons.sizeOf_spec, Prod.mk.sizeOf_spec]; omega)
  · exact Prod.Lex.right _ (by simp only [List.cons.sizeOf_spec, Prod.mk.sizeOf_spec]; omega)
  · exact Prod.Lex.right _ (by simp only [List.cons.sizeOf_spec, Prod.mk.sizeOf_spec]; omega)

end

/-- A document with its references replaced. No pointer is open at first. -/
def resolveAll (r : Resolver m) (root : Json) : m Json :=
  r.resolveIn root [] root (List.Subset.refl _)

/-- Resolving that calls itself as often as it has to. -/
def direct : Resolver (Except ReferenceError) where
  fail := .error
  call _ run := run

end Resolver

/-- A document with its references replaced, or why they cannot be. -/
def resolve (root : Json) : Except ReferenceError Json :=
  Resolver.direct.resolveAll root

end Rubric.Json
