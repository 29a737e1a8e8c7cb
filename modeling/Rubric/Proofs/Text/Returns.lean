/-
  Rubric.Proofs.Text.Returns

  Carriage returns before line feeds.

  Writing every line end as a carriage return and a line feed leaves the lines of a text
  as they are, and moves the offsets behind it. Between two offsets that take no line end
  apart, the text with the carriage returns is the text in between with its own.
-/
import Mathlib.Data.Nat.Find
import Mathlib.Order.Monotone.Defs
import Rubric.Proofs.Text.Boundary
import Rubric.Proofs.Text.Lines

namespace Rubric.Text

/-- The text with a carriage return before every line feed that has none. -/
def withReturns : List Char → List Char
  | [] => []
  | '\n' :: cs => '\r' :: '\n' :: withReturns cs
  | '\r' :: '\n' :: cs => '\r' :: '\n' :: withReturns cs
  | c :: cs => c :: withReturns cs

/-- A character that does not begin a line end stays as it is. -/
theorem withReturns_cons {c : Char} {cs : List Char} (hfeed : c ≠ '\n')
    (hreturn : c = '\r' → cs.head? ≠ some '\n') : withReturns (c :: cs) = c :: withReturns cs := by
  refine withReturns.eq_4 c cs hfeed ?_
  rintro rest heq rfl
  exact hreturn heq rfl

theorem withReturns_of_notMem {cs : List Char} (hfeed : '\n' ∉ cs) : withReturns cs = cs := by
  induction cs with
  | nil => rfl
  | cons c cs ih =>
    rw [List.mem_cons, not_or] at hfeed
    have hhead : c = '\r' → cs.head? ≠ some '\n' := fun _ hhead => hfeed.2 (List.mem_of_head? hhead)
    rw [withReturns_cons (Ne.symm hfeed.1) hhead, ih hfeed.2]

theorem withReturns_eq_nil {cs : List Char} : withReturns cs = [] ↔ cs = [] := by
  fun_cases withReturns cs <;> simp

theorem head?_withReturns_ne (cs : List Char) : (withReturns cs).head? ≠ some '\n' := by
  fun_cases withReturns cs with
  | case1 => simp
  | case2 cs => simp
  | case3 cs => simp
  | case4 c cs hfeed _ => simpa using hfeed

theorem head?_ne_of_forall {d : Char} {cs : List Char} (h : ∀ rest, cs = d :: rest → False) :
    cs.head? ≠ some d := by
  intro hhead
  obtain ⟨rest, hrest⟩ := List.head?_eq_some_iff.1 hhead
  exact h rest hrest

/-- What the last case of a definition by line ends says of the characters there. -/
theorem head?_ne_of_pair {c : Char} {cs : List Char}
    (hpair : ∀ rest, c = '\r' → cs = '\n' :: rest → False) : c = '\r' → cs.head? ≠ some '\n' :=
  fun hc => head?_ne_of_forall fun rest => hpair rest hc

/-- **Lines are the same for either line end.** -/
theorem lines_withReturns (cs : List Char) : lines (withReturns cs) = lines cs := by
  fun_induction withReturns cs with
  | case1 => rfl
  | case2 cs ih => exact congrArg ([] :: ·) ih
  | case3 cs ih => exact congrArg ([] :: ·) ih
  | case4 c cs hfeed hpair ih =>
    rw [lines_cons hfeed fun _ => head?_withReturns_ne cs,
      lines_cons hfeed (head?_ne_of_pair hpair), ih]

theorem byteLength_le_withReturns (cs : List Char) :
    byteLength cs ≤ byteLength (withReturns cs) := by
  fun_induction withReturns cs with
  | case1 => exact Nat.le_refl 0
  | case2 cs ih =>
    simp only [byteLength_cons]
    omega
  | case3 cs ih =>
    simp only [byteLength_cons]
    omega
  | case4 c cs _ _ ih =>
    simp only [byteLength_cons]
    omega

/-! ## Cuts -/

/-- No line end is taken apart between the two texts. -/
def Splits (before after : List Char) : Prop :=
  before.getLast? = some '\r' → after.head? ≠ some '\n'

theorem splits_nil_left (after : List Char) : Splits [] after := by simp [Splits]

theorem splits_nil_right (before : List Char) : Splits before [] := by simp [Splits]

theorem Splits.right (front : List Char) {before after : List Char}
    (h : Splits (front ++ before) after) : Splits before after :=
  fun hlast => h (by rw [List.getLast?_append, hlast, Option.some_or])

theorem Splits.left {before mid after : List Char} (h : Splits before (mid ++ after)) :
    Splits before mid :=
  fun hlast hhead => h hlast (by rw [List.head?_append, hhead, Option.some_or])

/-- Text without carriage returns can be moved to the first part. -/
theorem Splits.assoc {before mid after : List Char} (h : Splits before (mid ++ after))
    (hmid : '\r' ∉ mid) : Splits (before ++ mid) after := by
  cases mid using List.reverseRecOn with
  | nil => rwa [List.append_nil]
  | append_singleton mid c =>
    intro hlast
    rw [← List.append_assoc, List.getLast?_concat] at hlast
    exact absurd (Option.some.inj hlast ▸ List.mem_append_right mid List.mem_cons_self) hmid

theorem withReturns_append {before after : List Char} (h : Splits before after) :
    withReturns (before ++ after) = withReturns before ++ withReturns after := by
  fun_induction withReturns before with
  | case1 => rfl
  | case2 cs ih => exact congrArg ('\r' :: '\n' :: ·) (ih (h.right ['\n']))
  | case3 cs ih => exact congrArg ('\r' :: '\n' :: ·) (ih (h.right ['\r', '\n']))
  | case4 c cs hfeed hpair ih =>
    have hhead : c = '\r' → (cs ++ after).head? ≠ some '\n' := by
      cases cs with
      | nil =>
        rintro rfl
        exact h rfl
      | cons d cs => exact fun hc hhead => head?_ne_of_pair hpair hc hhead
    rw [List.cons_append, withReturns_cons hfeed hhead, ih (h.right [c]),
      List.cons_append]

/-- The offset lies between two characters and takes no line end apart. -/
def Cut (cs : List Char) (offset : Nat) : Prop :=
  ∃ before after, cs = before ++ after ∧ byteLength before = offset ∧ Splits before after

theorem Cut.boundary {cs : List Char} {offset : Nat} (h : Cut cs offset) : Boundary cs offset := by
  obtain ⟨before, after, rfl, hlength, -⟩ := h
  exact ⟨before, List.prefix_append before after, hlength⟩

theorem cut_zero (cs : List Char) : Cut cs 0 := ⟨[], cs, rfl, rfl, splits_nil_left cs⟩

theorem cut_byteLength (cs : List Char) : Cut cs (byteLength cs) :=
  ⟨cs, [], (List.append_nil cs).symm, rfl, splits_nil_right cs⟩

/-- Of two cuts the text of the later one splits at the earlier one. -/
theorem Cut.exists_append {cs : List Char} {start stop : Nat} (hstart : Cut cs start)
    (hstop : Cut cs stop) (hle : start ≤ stop) :
    ∃ before mid after, cs = before ++ (mid ++ after) ∧ byteLength before = start ∧
      byteLength (before ++ mid) = stop ∧ Splits before (mid ++ after) ∧
      Splits (before ++ mid) after := by
  obtain ⟨before, rest, hbefore, rfl, hsplits⟩ := hstart
  obtain ⟨upTo, after, rfl, rfl, hsplits'⟩ := hstop
  have hprefix : before <+: upTo ++ after := hbefore ▸ List.prefix_append before rest
  obtain ⟨mid, rfl⟩ := prefix_of_byteLength_le hprefix (List.prefix_append upTo after) hle
  rw [List.append_assoc, List.append_right_inj] at hbefore
  exact ⟨before, mid, after, List.append_assoc _ _ _, rfl, rfl, hbefore ▸ hsplits, hsplits'⟩

instance (before after : List Char) : Decidable (Splits before after) :=
  inferInstanceAs (Decidable (_ → _))

theorem exists_takeBytes?_iff {cs : List Char} {offset : Nat} :
    (∃ before ∈ takeBytes? offset cs, Splits before (cs.drop before.length)) ↔ Cut cs offset := by
  constructor
  · rintro ⟨before, htaken, hsplits⟩
    obtain ⟨⟨after, rfl⟩, hlength⟩ := takeBytes?_eq_some_iff.1 htaken
    rw [List.drop_left] at hsplits
    exact ⟨before, after, rfl, hlength, hsplits⟩
  · rintro ⟨before, after, rfl, hlength, hsplits⟩
    refine ⟨before, takeBytes?_eq_some_iff.2 ⟨List.prefix_append before after, hlength⟩, ?_⟩
    rwa [List.drop_left]

instance (cs : List Char) (offset : Nat) : Decidable (Cut cs offset) :=
  decidable_of_iff _ exists_takeBytes?_iff

/-! ## Offsets -/

/-- The last cut up to an offset. -/
def cutBefore (cs : List Char) (offset : Nat) : Nat :=
  Nat.findGreatest (Cut cs) offset

theorem cutBefore_eq {cs : List Char} {offset : Nat} (h : Cut cs offset) :
    cutBefore cs offset = offset :=
  Nat.findGreatest_eq h

theorem cut_cutBefore (cs : List Char) (offset : Nat) : Cut cs (cutBefore cs offset) :=
  Nat.findGreatest_spec (Nat.zero_le offset) (cut_zero cs)

theorem cutBefore_mono (cs : List Char) : Monotone (cutBefore cs) :=
  fun _ _ hle => Nat.findGreatest_mono_right (Cut cs) hle

/-- Where an offset of the text is found in the text with carriage returns. -/
def returned (cs : List Char) (offset : Nat) : Nat :=
  byteLength (withReturns ((takeBytes? (cutBefore cs offset) cs).getD []))

theorem returned_byteLength {before after : List Char} (h : Splits before after) :
    returned (before ++ after) (byteLength before) = byteLength (withReturns before) := by
  have htaken : takeBytes? (byteLength before) (before ++ after) = some before :=
    takeBytes?_eq_some_iff.2 ⟨List.prefix_append before after, rfl⟩
  rw [returned, cutBefore_eq ⟨before, after, rfl, rfl, h⟩, htaken, Option.getD_some]

theorem returned_zero (cs : List Char) : returned cs 0 = 0 :=
  returned_byteLength (splits_nil_left cs)

theorem returned_length (cs : List Char) :
    returned cs (byteLength cs) = byteLength (withReturns cs) := by
  rw [← returned_byteLength (splits_nil_right cs), List.append_nil]

theorem returned_cutBefore (cs : List Char) (offset : Nat) :
    returned cs (cutBefore cs offset) = returned cs offset := by
  rw [returned, cutBefore_eq (cut_cutBefore cs offset), returned]

theorem returned_mono (cs : List Char) : Monotone (returned cs) := by
  intro start stop hle
  rw [← returned_cutBefore cs start, ← returned_cutBefore cs stop]
  obtain ⟨before, mid, after, hsplit, hstart, hstop, hfirst, hlast⟩ :=
    (cut_cutBefore cs start).exists_append (cut_cutBefore cs stop) (cutBefore_mono cs hle)
  rw [← hstart, ← hstop]
  subst hsplit
  rw [returned_byteLength hfirst, ← List.append_assoc, returned_byteLength hlast,
    withReturns_append hfirst.left, byteLength_append]
  omega

/-- A range is empty, or it does not begin behind where it stops. -/
theorem slice_eq_nil {cs : List Char} {start stop : Nat} (hle : stop ≤ start) :
    slice cs start stop = [] := by
  rw [slice, slice?]
  split
  next hforward =>
    rw [Nat.le_antisymm hforward hle, Nat.sub_self]
    cases dropBytes? stop cs with
    | none => rfl
    | some rest => simp [takeBytes?]
  next => rfl

theorem slice_append (before mid after : List Char) :
    slice (before ++ (mid ++ after)) (byteLength before) (byteLength (before ++ mid)) = mid := by
  have hslice : slice? (before ++ (mid ++ after)) (byteLength before) (byteLength (before ++ mid))
      = some mid :=
    slice?_eq_some_iff.2 ⟨before, ⟨after, List.append_assoc _ _ _⟩, rfl,
      (byteLength_append before mid).symm⟩
  rw [slice, hslice, Option.getD_some]

/-- **Between two cuts the text with carriage returns is the text in between with its own.** -/
theorem slice_withReturns {cs : List Char} {start stop : Nat} (hstart : Cut cs start)
    (hstop : Cut cs stop) :
    slice (withReturns cs) (returned cs start) (returned cs stop)
      = withReturns (slice cs start stop) := by
  rcases Nat.le_total start stop with hle | hle
  · obtain ⟨before, mid, after, rfl, rfl, rfl, hfirst, hlast⟩ := hstart.exists_append hstop hle
    rw [slice_append, returned_byteLength hfirst, ← List.append_assoc, returned_byteLength hlast,
      withReturns_append hlast, withReturns_append hfirst.left, List.append_assoc, slice_append]
  · rw [slice_eq_nil hle, slice_eq_nil (returned_mono cs hle)]
    rfl

end Rubric.Text
