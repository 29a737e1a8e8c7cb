/-
  Rubric.Proofs.Text.Boundary

  Offsets at which a character starts.

  Such an offset is the length of a prefix of the text. Taking and dropping bytes
  succeeds at these offsets alone, and of two of them the prefix of the smaller one
  begins the prefix of the other.
-/
import Mathlib.Data.List.Basic
import Rubric.Text.Offset

namespace Rubric.Text

/-- A character of the text starts at the offset, or the text ends there. -/
def Boundary (cs : List Char) (offset : Nat) : Prop :=
  ∃ before, before <+: cs ∧ byteLength before = offset

theorem byteLength_eq_zero {cs : List Char} : byteLength cs = 0 ↔ cs = [] := by
  cases cs with
  | nil => simp [byteLength]
  | cons c cs =>
    have hsize := c.utf8Size_pos
    rw [byteLength_cons]
    simp only [reduceCtorEq, iff_false]
    omega

theorem length_le_byteLength (cs : List Char) : cs.length ≤ byteLength cs := by
  induction cs with
  | nil => exact Nat.le_refl 0
  | cons c cs ih =>
    have hsize := c.utf8Size_pos
    rw [List.length_cons, byteLength_cons]
    omega

theorem boundary_zero (cs : List Char) : Boundary cs 0 := ⟨[], List.nil_prefix, rfl⟩

theorem Boundary.le_byteLength {cs : List Char} {offset : Nat} (h : Boundary cs offset) :
    offset ≤ byteLength cs := by
  obtain ⟨before, ⟨after, rfl⟩, rfl⟩ := h
  rw [byteLength_append]
  omega

/-- Prefixes are in the order of their lengths in bytes. -/
theorem prefix_of_byteLength_le {cs before before' : List Char} (h : before <+: cs)
    (h' : before' <+: cs) (hle : byteLength before ≤ byteLength before') :
    before <+: before' := by
  rcases List.prefix_or_prefix_of_prefix h h' with hshorter | ⟨more, hlonger⟩
  · exact hshorter
  · -- A longer text of no more bytes is the same text.
    have hempty : more = [] := by
      apply byteLength_eq_zero.1
      rw [← hlonger, byteLength_append] at hle
      omega
    have hsame : before' = before := by rw [← hlonger, hempty, List.append_nil]
    exact hsame ▸ List.prefix_rfl

/-! ## Taking, dropping and cutting out -/

theorem takeBytes?_eq_some_iff {n : Nat} {cs taken : List Char} :
    takeBytes? n cs = some taken ↔ taken <+: cs ∧ byteLength taken = n := by
  induction cs generalizing n taken with
  | nil =>
    rw [List.prefix_nil]
    cases n with
    | zero =>
      rw [takeBytes?, Option.some_inj, eq_comm]
      exact ⟨fun h => ⟨h, h ▸ rfl⟩, fun h => h.1⟩
    | succ n =>
      rw [takeBytes?]
      constructor
      · intro h
        cases h
      · rintro ⟨rfl, hlength⟩
        cases hlength
  | cons c cs ih =>
    cases n with
    | zero =>
      rw [takeBytes?, Option.some_inj, byteLength_eq_zero, eq_comm]
      exact ⟨fun h => ⟨h ▸ List.nil_prefix, h⟩, fun h => h.2⟩
    | succ n =>
      have hsize := c.utf8Size_pos
      rw [takeBytes?]
      split
      next hfits =>
        -- What is taken begins with the first character.
        rw [Option.map_eq_some_iff]
        constructor
        · rintro ⟨rest, hrest, rfl⟩
          obtain ⟨htaken, hlength⟩ := ih.1 hrest
          refine ⟨List.cons_prefix_cons.2 ⟨rfl, htaken⟩, ?_⟩
          rw [byteLength_cons]
          omega
        · rintro ⟨htaken, hlength⟩
          cases taken with
          | nil =>
            rw [byteLength_nil] at hlength
            omega
          | cons d rest =>
            obtain ⟨rfl, hrest⟩ := List.cons_prefix_cons.1 htaken
            rw [byteLength_cons] at hlength
            exact ⟨rest, ih.2 ⟨hrest, by omega⟩, rfl⟩
      next hfits =>
        constructor
        · intro h
          cases h
        · rintro ⟨htaken, hlength⟩
          cases taken with
          | nil =>
            rw [byteLength_nil] at hlength
            omega
          | cons d rest =>
            obtain ⟨rfl, -⟩ := List.cons_prefix_cons.1 htaken
            rw [byteLength_cons] at hlength
            omega

/-- Bytes can be taken off the front up to the offsets at which characters start. -/
theorem isSome_takeBytes?_iff {n : Nat} {cs : List Char} :
    (takeBytes? n cs).isSome ↔ Boundary cs n := by
  rw [Option.isSome_iff_exists]
  exact exists_congr fun _ => takeBytes?_eq_some_iff

instance (cs : List Char) (offset : Nat) : Decidable (Boundary cs offset) :=
  decidable_of_iff _ isSome_takeBytes?_iff

theorem dropBytes?_eq_some_iff {n : Nat} {cs rest : List Char} :
    dropBytes? n cs = some rest ↔ ∃ before, before ++ rest = cs ∧ byteLength before = n := by
  induction cs generalizing n with
  | nil =>
    cases n with
    | zero =>
      rw [dropBytes?, Option.some_inj]
      constructor
      · rintro rfl
        exact ⟨[], rfl, rfl⟩
      · rintro ⟨before, happend, -⟩
        exact (List.append_eq_nil_iff.1 happend).2.symm
    | succ n =>
      constructor
      · intro h
        cases h
      · rintro ⟨before, happend, hlength⟩
        rw [(List.append_eq_nil_iff.1 happend).1] at hlength
        cases hlength
  | cons c cs ih =>
    cases n with
    | zero =>
      rw [dropBytes?, Option.some_inj]
      constructor
      · rintro rfl
        exact ⟨[], rfl, rfl⟩
      · rintro ⟨before, happend, hlength⟩
        rwa [byteLength_eq_zero.1 hlength, List.nil_append, eq_comm] at happend
    | succ n =>
      have hsize := c.utf8Size_pos
      -- What is dropped begins with the first character.
      have hfirst : (∃ before, before ++ rest = c :: cs ∧ byteLength before = n + 1) ↔
          ∃ before, before ++ rest = cs ∧ c.utf8Size + byteLength before = n + 1 := by
        constructor
        · rintro ⟨before, happend, hlength⟩
          cases before with
          | nil => cases hlength
          | cons d before =>
            obtain ⟨rfl, htail⟩ := List.cons.inj happend
            exact ⟨before, htail, hlength⟩
        · rintro ⟨before, rfl, hlength⟩
          exact ⟨c :: before, rfl, hlength⟩
      rw [dropBytes?, hfirst]
      split
      next hfits =>
        rw [ih]
        constructor
        · rintro ⟨before, happend, hlength⟩
          exact ⟨before, happend, by omega⟩
        · rintro ⟨before, happend, hlength⟩
          exact ⟨before, happend, by omega⟩
      next hfits =>
        constructor
        · intro h
          cases h
        · rintro ⟨before, -, hlength⟩
          omega

/-- A slice stands in the text where it starts, and is as long as the range. -/
theorem slice?_eq_some_iff {cs taken : List Char} {start stop : Nat} :
    slice? cs start stop = some taken ↔
      ∃ before, before ++ taken <+: cs ∧ byteLength before = start ∧
        start + byteLength taken = stop := by
  unfold slice?
  split
  next hle =>
    rw [Option.bind_eq_some_iff]
    constructor
    · rintro ⟨rest, hdrop, htake⟩
      obtain ⟨before, rfl, hlength⟩ := dropBytes?_eq_some_iff.1 hdrop
      obtain ⟨hbegins, htaken⟩ := takeBytes?_eq_some_iff.1 htake
      exact ⟨before, (List.prefix_append_right_inj before).2 hbegins, hlength, by omega⟩
    · rintro ⟨before, ⟨after, happend⟩, hlength, hstop⟩
      rw [List.append_assoc] at happend
      refine ⟨taken ++ after, dropBytes?_eq_some_iff.2 ⟨before, happend, hlength⟩, ?_⟩
      exact takeBytes?_eq_some_iff.2 ⟨List.prefix_append taken after, by omega⟩
  next hle =>
    constructor
    · intro h
      cases h
    · rintro ⟨before, -, -, hstop⟩
      omega

/-- A slice is empty, or it stands in the text where it starts. -/
theorem slice_cases (cs : List Char) (start stop : Nat) :
    slice cs start stop = [] ∨
      ∃ before, before ++ slice cs start stop <+: cs ∧ byteLength before = start := by
  unfold slice
  cases hslice : slice? cs start stop with
  | none => exact Or.inl rfl
  | some taken =>
    obtain ⟨before, hprefix, hlength, -⟩ := slice?_eq_some_iff.1 hslice
    exact Or.inr ⟨before, hprefix, hlength⟩

/-- Between two offsets at which characters start there is a slice. -/
theorem exists_slice? {cs : List Char} {start stop : Nat} (hstart : Boundary cs start)
    (hstop : Boundary cs stop) (hle : start ≤ stop) : ∃ taken, slice? cs start stop = some taken := by
  obtain ⟨before, hbefore, rfl⟩ := hstart
  obtain ⟨upTo, hupTo, rfl⟩ := hstop
  obtain ⟨taken, rfl⟩ := prefix_of_byteLength_le hbefore hupTo hle
  exact ⟨taken, slice?_eq_some_iff.2 ⟨before, hupTo, rfl, (byteLength_append before taken).symm⟩⟩

/-- The slice of a range inside of another one stands in the slice of that one. -/
theorem slice?_infix {cs inner outer : List Char} {start stop start' stop' : Nat}
    (hinner : slice? cs start' stop' = some inner) (houter : slice? cs start stop = some outer)
    (hstart : start ≤ start') (hstop : stop' ≤ stop) : inner <:+: outer := by
  obtain ⟨before, hbefore, rfl, rfl⟩ := slice?_eq_some_iff.1 houter
  obtain ⟨before', hbefore', rfl, rfl⟩ := slice?_eq_some_iff.1 hinner
  -- The inner range starts after what stands before the outer one, and some more text.
  obtain ⟨between, rfl⟩ := prefix_of_byteLength_le
    ((List.prefix_append before outer).trans hbefore)
    ((List.prefix_append before' inner).trans hbefore') hstart
  rw [List.append_assoc] at hbefore'
  have hprefix : between ++ inner <+: outer := by
    apply (List.prefix_append_right_inj before).1
    apply prefix_of_byteLength_le hbefore' hbefore
    rw [byteLength_append, byteLength_append, byteLength_append]
    rw [byteLength_append] at hstop
    omega
  exact (List.suffix_append between inner).isInfix.trans hprefix.isInfix

end Rubric.Text
