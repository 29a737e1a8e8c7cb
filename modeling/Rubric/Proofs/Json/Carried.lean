/-
  Rubric.Proofs.Json.Carried

  Values that carry what a reader takes from them.

  A value that was written to be read back carries something: its numbers are kept
  exactly, its nesting is bounded, and the reader takes from it what was written,
  wherever there is room for so much nesting. The three go together, since each part
  of a value has to have them for the value to have them.

  A structure is carried by an object if its fields are filled one after another, each
  by the member of its name, and those that are left out may be.
-/
import Rubric.Json.Shape
import Rubric.Proofs.Json.Spelling

namespace Rubric.Json

variable {α : Type}

/-- A value carries `x` for a reader, and is at most `depth` nested. -/
structure Carries (read : Reader α) (depth : Nat) (v : Json) (x : α) : Prop where
  exact : v.IsExact
  depth_le : v.depth ≤ depth
  reads : ∀ room, depth + 2 ≤ room → read room (Draft.ofJson v) = .ok x

theorem Carries.mono {read : Reader α} {depth depth' : Nat} {v : Json} {x : α}
    (h : Carries read depth v x) (hle : depth ≤ depth') : Carries read depth' v x :=
  ⟨h.exact, Nat.le_trans h.depth_le hle, fun room hroom => h.reads room (by omega)⟩

/-! ## Simple shapes -/

theorem carries_text (depth : Nat) (s : String) : Carries readText depth (.string s) s :=
  ⟨trivial, Nat.zero_le _, fun _ _ => rfl⟩

theorem carries_bool (depth : Nat) (b : Bool) : Carries readBool depth (.bool b) b :=
  ⟨trivial, Nat.zero_le _, fun _ _ => rfl⟩

theorem carries_unsigned (depth : Nat) (name : String) {bits n : Nat} (hbits : bits ≤ 64)
    (hn : n < 2 ^ bits) : Carries (readUnsigned name bits) depth (ofNat n) n := by
  have hle : 2 ^ bits ≤ 2 ^ 64 := Nat.pow_le_pow_right (by decide) hbits
  have hexact : n ≤ Number.maxNatural := by
    show n ≤ 2 ^ 64 - 1
    omega
  exact ⟨hexact, Nat.zero_le _, fun _ _ => if_pos hn⟩

theorem carries_none (read : Reader α) (depth : Nat) :
    Carries (readOption read) depth .null none :=
  ⟨trivial, Nat.zero_le _, fun _ _ => rfl⟩

theorem Carries.some {read : Reader α} {depth : Nat} {v : Json} {x : α}
    (h : Carries read depth v x) (hv : v ≠ .null) :
    Carries (readOption read) depth v (some x) := by
  refine ⟨h.exact, h.depth_le, fun room hroom => ?_⟩
  unfold readOption
  split
  · next hnull => cases v <;> first | exact absurd rfl hv | exact nomatch hnull
  · rw [h.reads room hroom]

/-- An array carries what its items carry. -/
theorem carries_list {read : Reader α} {write : α → Json} {depth : Nat} {xs : List α}
    (h : ∀ x ∈ xs, Carries read depth (write x) x) :
    Carries (readList read) (depth + 1) (.array (xs.map write)) xs := by
  have hitems : AreExactItems (xs.map write) ∧ depthItems (xs.map write) ≤ depth ∧
      ∀ room, depth + 2 ≤ room →
        readEach (read room) (Draft.ofJsonItems (xs.map write)) = .ok xs := by
    induction xs with
    | nil => exact ⟨trivial, Nat.zero_le _, fun _ _ => rfl⟩
    | cons x xs ih =>
      rw [List.forall_mem_cons] at h
      obtain ⟨hexact, hdepth, hreads⟩ := ih h.2
      refine ⟨⟨h.1.exact, hexact⟩, Nat.max_le.2 ⟨h.1.depth_le, hdepth⟩, fun room hroom => ?_⟩
      rw [List.map_cons, Draft.ofJsonItems, readEach, h.1.reads room hroom]
      simp only [hreads room hroom]
  obtain ⟨hexact, hdepth, hreads⟩ := hitems
  refine ⟨hexact, Nat.succ_le_succ hdepth, fun room hroom => ?_⟩
  rw [Draft.ofJson, readList, if_neg (by omega), hreads (room - 1) (by omega)]
  rfl

/-! ## Fields that are filled -/

section
variable {σ : Type}

/-- The members fill the fields one after another, each at most `depth` nested, and make
    `t` of the structure `s`. A field that is left out is not a required one. -/
inductive Fills (depth : Nat) : List (Field σ) → List (String × Json) → σ → σ → Prop
  | nil (s : σ) : Fills depth [] [] s s
  | absent {f : Field σ} {fields : List (Field σ)} {members : List (String × Json)} {s t : σ}
      (habsence : f.absence ≠ .required) (hrest : Fills depth fields members s t) :
      Fills depth (f :: fields) members s t
  | present {β : Type} {name : String} {absence : Absence} {read : Reader β} {put : β → σ → σ}
      {aliases : List String} {fields : List (Field σ)} {v : Json} {x : β}
      {members : List (String × Json)} {s t : σ} (hv : Carries read depth v x)
      (hrest : Fills depth fields members (put x s) t) :
      Fills depth (.of name absence read put aliases :: fields) ((name, v) :: members) s t

variable {depth : Nat} {fields : List (Field σ)} {members : List (String × Json)} {s t : σ}

theorem Fills.exact (h : Fills depth fields members s t) : AreExactFields members := by
  induction h with
  | nil s => trivial
  | absent _ _ ih => exact ih
  | present hv _ ih => exact ⟨hv.exact, ih⟩

theorem Fills.depth_le (h : Fills depth fields members s t) : depthFields members ≤ depth := by
  induction h with
  | nil s => exact Nat.zero_le _
  | absent _ _ ih => exact ih
  | present hv _ ih => exact Nat.max_le.2 ⟨hv.depth_le, ih⟩

/-- The names that fields answer to. -/
def answers (fields : List (Field σ)) : List String :=
  fields.flatMap fun f => f.name :: f.aliases

theorem answers_cons (f : Field σ) (fields : List (Field σ)) :
    answers (f :: fields) = f.name :: (f.aliases ++ answers fields) :=
  List.flatMap_cons

theorem name_mem_answers {f : Field σ} (hf : f ∈ fields) : f.name ∈ answers fields :=
  List.mem_flatMap.2 ⟨f, hf, List.mem_cons_self⟩

/-- If no two fields answer to the same name, each is found by its own. -/
theorem find?_answering (hnodup : (answers fields).Nodup) {f : Field σ} (hf : f ∈ fields) :
    fields.find? (fun g => g.name == f.name || g.aliases.contains f.name) = some f := by
  induction fields with
  | nil => exact nomatch hf
  | cons g rest ih =>
    rw [answers_cons, List.nodup_cons, List.mem_append, not_or, List.nodup_append] at hnodup
    obtain ⟨⟨-, hname⟩, -, hrest, hapart⟩ := hnodup
    cases hf with
    | head => exact List.find?_cons_of_pos (by rw [beq_self_eq_true, Bool.true_or])
    | tail _ hf =>
      have hmem : f.name ∈ answers rest := name_mem_answers hf
      have hother : (g.name == f.name || g.aliases.contains f.name) = false := by
        rw [← Bool.not_eq_true, Bool.or_eq_true, beq_iff_eq, List.contains_iff_mem]
        rintro (heq | halias)
        · exact hname (heq ▸ hmem)
        · exact hapart _ halias _ hmem rfl
      simp only [List.find?_cons, hother]
      exact ih hrest hf

/-- Filling the fields is what reading the members does. -/
theorem Fills.readMembers {layout : Layout σ} (h : Fills depth fields members s t)
    (hnodup : (answers fields).Nodup) (hfound : ∀ f ∈ fields, layout.field? f.name = some f)
    {room : Nat} (hroom : depth + 2 ≤ room) {seen : List String}
    (hseen : ∀ f ∈ fields, f.name ∉ seen) :
    ∃ seen', layout.readMembers room (Draft.ofJsonFields members) seen s = .ok (seen', t) ∧
      seen ⊆ seen' ∧ ∀ f ∈ fields, f.absence = .required → f.name ∈ seen' := by
  induction h generalizing seen with
  | nil s => exact ⟨seen, rfl, List.Subset.refl _, List.forall_mem_nil _⟩
  | absent habsence hrest ih =>
    rw [List.forall_mem_cons] at hfound hseen
    rw [answers_cons, List.nodup_cons, List.nodup_append] at hnodup
    obtain ⟨seen', hread, hsubset, hrequired⟩ := ih hnodup.2.2.1 hfound.2 hseen.2
    exact ⟨seen', hread, hsubset,
      List.forall_mem_cons.2 ⟨fun heq => absurd heq habsence, hrequired⟩⟩
  | @present β name absence read put aliases rest v x others s t hv hrest ih =>
    rw [List.forall_mem_cons] at hfound hseen
    rw [answers_cons, List.nodup_cons, List.mem_append, not_or, List.nodup_append] at hnodup
    obtain ⟨⟨-, hname⟩, -, hdistinct, -⟩ := hnodup
    have hseen' : ∀ f ∈ rest, f.name ∉ name :: seen := fun f hf hmem => by
      rcases List.mem_cons.1 hmem with heq | hmem
      · have hmem' : f.name ∈ answers rest := name_mem_answers hf
        rw [heq] at hmem'
        exact hname hmem'
      · exact hseen.2 f hf hmem
    obtain ⟨seen', hread, hsubset, hrequired⟩ := ih hdistinct hfound.2 hseen'
    obtain ⟨hthis, hothers⟩ := List.cons_subset.1 hsubset
    refine ⟨seen', ?_, hothers, List.forall_mem_cons.2 ⟨fun _ => hthis, hrequired⟩⟩
    have hfield : layout.field? name = some (.of name absence read put aliases) := hfound.1
    have hnew : seen.contains name = false := by
      rw [← Bool.not_eq_true, List.contains_iff_mem]
      exact hseen.1
    rw [Draft.ofJsonFields, Layout.readMembers, hfield]
    simp only [Field.of, hnew, hv.reads room hroom]
    exact hread

/-- **An object whose members fill the fields of a layout carries the structure they make.** -/
theorem Fills.carries {layout : Layout σ} (h : Fills depth layout.fields members s t)
    (hnodup : (answers layout.fields).Nodup) (origin : Origin) :
    Carries (layout.read origin s) (depth + 1) (.object members) t := by
  refine ⟨h.exact, Nat.succ_le_succ h.depth_le, fun room hroom => ?_⟩
  have hfound : ∀ f ∈ layout.fields, layout.field? f.name = some f := fun f hf =>
    find?_answering hnodup hf
  obtain ⟨seen, hread, -, hrequired⟩ := h.readMembers hnodup hfound
    (show depth + 2 ≤ room - 1 by omega) (fun f _ => List.not_mem_nil)
  have hmissing : layout.missing? seen = none := by
    unfold Layout.missing?
    rw [Option.map_eq_none_iff, List.find?_eq_none]
    intro f hf
    by_cases habsence : f.absence = .required
    · simp [hrequired f hf habsence]
    · simp [habsence]
  rw [Draft.ofJson, Layout.read, if_neg (by omega), hread]
  simp only [noFlaw, hmissing]

end

end Rubric.Json
