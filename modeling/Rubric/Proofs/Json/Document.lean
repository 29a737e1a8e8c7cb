/-
  Rubric.Proofs.Json.Document

  Texts of which the whole has to fit.

  A document is read from a text iff the text is that of one value that fits, with space
  around it at most. Readers take values apart from the front and stop at the first thing
  that does not fit. So a reader of a structure that gets to the end of a value has found
  no mistake in it.
-/
import Rubric.Proofs.Json.Parsed
import Rubric.Proofs.Json.Shape
import Rubric.Proofs.Text.Trim

namespace Rubric

namespace Json

variable {α σ : Type}

/-! ## Whole texts -/

mutual

/-- In the text of a value there is no mistake to be passed over. -/
theorem Draft.IsText.skip_eq_ok (d : Draft) {cs : List Char} (h : d.IsText cs) :
    skip d = .ok () := by
  cases d with
  | array items flaw =>
    cases flaw with
    | some flaw => exact h.elim
    | none =>
      obtain ⟨inner, -, hinner⟩ := h
      rw [skip, Draft.AreItems.skipItems_eq_ok items hinner]
      rfl
  | object fields flaw =>
    cases flaw with
    | some flaw => exact h.elim
    | none =>
      obtain ⟨inner, -, hinner⟩ := h
      rw [skip, Draft.AreMembers.skipFields_eq_ok fields hinner]
      rfl
  | broken flaw => exact h.elim
  | _ => rfl

theorem Draft.AreItems.skipItems_eq_ok (items : List Draft) {cs : List Char}
    (h : Draft.AreItems items cs) : skipItems items = .ok () := by
  cases items with
  | nil => rfl
  | cons x xs =>
    cases xs with
    | nil =>
      obtain ⟨item, ⟨_, _, _, _, _, hx, _⟩, -⟩ := h
      rw [skipItems, Draft.IsText.skip_eq_ok x hx]
      rfl
    | cons y ys =>
      obtain ⟨item, others, ⟨_, _, _, _, _, hx, _⟩, hothers, -⟩ := h
      rw [skipItems, Draft.IsText.skip_eq_ok x hx]
      exact Draft.AreItems.skipItems_eq_ok (y :: ys) hothers

theorem Draft.AreMembers.skipFields_eq_ok (fields : List (String × Draft)) {cs : List Char}
    (h : Draft.AreMembers fields cs) : skipFields fields = .ok () := by
  cases fields with
  | nil => rfl
  | cons member xs =>
    obtain ⟨name, x⟩ := member
    cases xs with
    | nil =>
      obtain ⟨key, item, -, ⟨_, _, _, _, _, hx, _⟩, -⟩ := h
      rw [skipFields, Draft.IsText.skip_eq_ok x hx]
      rfl
    | cons other xs =>
      obtain ⟨key, item, others, -, ⟨_, _, _, _, _, hx, _⟩, hothers, -⟩ := h
      rw [skipFields, Draft.IsText.skip_eq_ok x hx]
      exact Draft.AreMembers.skipFields_eq_ok (other :: xs) hothers

end

theorem skipFields_cons_eq_ok_iff {name : String} {x : Draft} {xs : List (String × Draft)} :
    skipFields ((name, x) :: xs) = .ok () ↔ skip x = .ok () ∧ skipFields xs = .ok () := by
  rw [skipFields]
  cases skip x <;> simp

/-! ## Strings and null -/

theorem readText_eq_ok_iff {room : Nat} {d : Draft} {s : String} :
    readText room d = .ok s ↔ d = .string (some s) := by
  unfold readText
  split
  · simp
  next hstring =>
    constructor
    · exact fun h => absurd h (refuse_ne_ok _ _ _)
    · exact fun h => absurd h (hstring s)

theorem readOption_eq_ok_iff {read : Reader α} {room : Nat} {d : Draft} {x : Option α} :
    readOption read room d = .ok x ↔
      d = .null ∧ x = none ∨ d ≠ .null ∧ ∃ y, read room d = .ok y ∧ x = some y := by
  unfold readOption
  split
  · simp [eq_comm]
  next hnull =>
    have hne : d ≠ .null := hnull
    cases read room d <;> simp [hne, eq_comm]

/-! ## Structures -/

section Members

variable {layout : Layout σ} {room : Nat} {name : String} {d : Draft}
  {rest : List (String × Draft)} {seen : List String} {s : σ} {out : List String × σ}

/-- A member of a field is read and put into the structure, if the field was not met
    before. -/
theorem Layout.readMembers_field_eq_ok_iff {absence : Absence} {read : Reader α}
    {put : α → σ → σ} (hfield : layout.field? name = some (.of name absence read put)) :
    layout.readMembers room ((name, d) :: rest) seen s = .ok out ↔
      name ∉ seen ∧ ∃ x, read room d = .ok x ∧
        layout.readMembers room rest (name :: seen) (put x s) = .ok out := by
  rw [readMembers, hfield]
  simp only [Field.of, List.contains_eq_mem, decide_eq_true_eq]
  split
  next hseen => simp [hseen]
  next hseen => cases read room d <;> simp [hseen]

/-- Any other member is passed over. -/
theorem Layout.readMembers_other (hfield : layout.field? name = none)
    (hopen : layout.closed = false) (hskip : skip d = .ok ()) :
    layout.readMembers room ((name, d) :: rest) seen s = layout.readMembers room rest seen s := by
  rw [readMembers, hfield]
  simp [hopen, hskip]

end Members

theorem readUnit_eq_ok_iff {d : Draft} {u : Unit} : readUnit d = .ok u ↔ d = .null := by
  unfold readUnit
  split
  · simp
  next hnull =>
    have hne : d ≠ .null := hnull
    simp [refuse_ne_ok, hne]

/-- **An alternative is written as its name or as an object that has the name for its only
    member, with null under it.** -/
theorem readVariant_text_eq_ok_iff {known : List (String × α)} {room : Nat} (hroom : 1 < room)
    {d : Draft} {x : α} :
    readVariant .text known room d = .ok x ↔
      ∃ name, variant known name = .ok x ∧
        (d = .string (some name) ∨ d = .object [(name, .null)] none) := by
  constructor
  · intro h
    unfold readVariant at h
    split at h
    next name => exact ⟨name, h, .inl rfl⟩
    next fields flaw =>
      simp only [if_neg (show ¬ room ≤ 1 by omega)] at h
      split at h
      · cases h
      next name content rest =>
        split at h
        · cases h
        next y hy =>
          split at h
          · cases h
          next hunit =>
            obtain rfl := readUnit_eq_ok_iff.1 hunit
            split at h
            · exact ⟨name, hy.trans h, .inr rfl⟩
            · cases h
            · cases h
    all_goals cases h
  · rintro ⟨name, hname, rfl | rfl⟩
    · exact hname
    · simp [readVariant, hroom, hname, readUnit]

end Json

end Rubric
