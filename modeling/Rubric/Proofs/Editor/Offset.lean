/-
  Rubric.Proofs.Editor.Offset

  The offset that a place in an editor belongs to.

  Every character moves the place on: a line break to the beginning of the next line,
  any other character by at least one UTF-16 unit. So the places of two characters of a
  source are never the same, and going over the source character by character until a
  place is reached finds the offset that the place was made from.
-/
import Rubric.Proofs.Editor.Position

namespace Rubric.Editor

namespace Position

/-! ## Moving on by characters -/

/-- The first place stands before the second one. -/
def Before (p q : Position) : Prop :=
  p.line < q.line ∨ (p.line = q.line ∧ p.character < q.character)

/-- The place after one more character. -/
def next (p : Position) (c : Char) : Position :=
  if c = '\n' then ⟨p.line + 1, 0⟩ else ⟨p.line, p.character + Text.units16 [c]⟩

theorem Before.trans {p q r : Position} (hpq : p.Before q) (hqr : q.Before r) : p.Before r := by
  unfold Before at *
  omega

theorem Before.ne {p q : Position} (h : p.Before q) : p ≠ q := by
  rintro rfl
  unfold Before at h
  omega

theorem units16_singleton_pos (c : Char) : 0 < Text.units16 [c] := by
  rw [Text.units16, Text.units16]
  split <;> omega

theorem before_next (p : Position) (c : Char) : p.Before (p.next c) := by
  unfold next
  split
  · exact Or.inl (Nat.lt_succ_self p.line)
  · exact Or.inr ⟨rfl, Nat.lt_add_of_pos_right (units16_singleton_pos c)⟩

/-- After some characters one stands later than before them. -/
theorem before_foldl_next (p : Position) {more : List Char} (hmore : more ≠ []) :
    p.Before (more.foldl next p) := by
  induction more generalizing p with
  | nil => exact absurd rfl hmore
  | cons c rest ih =>
    rw [List.foldl_cons]
    by_cases hrest : rest = []
    · rw [hrest]
      exact before_next p c
    · exact (before_next p c).trans (ih (p.next c) hrest)

/-- The line breaks of some characters and the units after the last of them are where one
    stands after moving over all of them. -/
theorem foldl_next_eq (before : List Char) :
    before.foldl next ⟨0, 0⟩ = ⟨before.count '\n', Text.units16 (lastLine before)⟩ := by
  induction before using List.reverseRecOn with
  | nil => rfl
  | append_singleton before c ih =>
    rw [List.foldl_append, ih, List.foldl_cons, List.foldl_nil, next, List.count_append]
    by_cases hbreak : c = '\n'
    · subst hbreak
      have hempty : lastLine (before ++ ['\n']) = [] := by simp [lastLine]
      rw [if_pos rfl, hempty, List.count_singleton_self]
      rfl
    · have hnot : '\n' ∉ [c] := by simpa using Ne.symm hbreak
      rw [if_neg hbreak, lastLine_append before hnot, Text.units16_append,
        List.count_eq_zero.2 hnot, Nat.add_zero]

/-! ## Finding the offset -/

/-- Goes over a text from a place and an offset on until the place is `target`. -/
def offsetFrom? (target : Position) : (here : Position) → (offset : Nat) → List Char → Option Nat
  | here, offset, [] => if here = target then some offset else none
  | here, offset, c :: cs =>
    if here = target then some offset
    else offsetFrom? target (here.next c) (offset + c.utf8Size) cs

/-- The offset in a source of the character at a place, if there is one. -/
def offset? (source : List Char) (p : Position) : Option Nat :=
  offsetFrom? p ⟨0, 0⟩ 0 source

/-- A search that starts at its target finds the offset there and no other one, since any
    character would move the place on. -/
theorem some_eq_some_iff_stays {here : Position} {offset found : Nat} {cs : List Char} :
    some offset = some found ↔ ∃ before, before <+: cs ∧
      offset + Text.byteLength before = found ∧ before.foldl next here = here := by
  rw [Option.some_inj]
  constructor
  · rintro rfl
    exact ⟨[], List.nil_prefix, rfl, rfl⟩
  · rintro ⟨before, -, rfl, hstays⟩
    have hempty : before = [] := by
      by_contra hmore
      exact (before_foldl_next here hmore).ne hstays.symm
    rw [hempty, Text.byteLength_nil, Nat.add_zero]

/-- What is found lies behind the characters over which one moves to the target. -/
theorem offsetFrom?_eq_some_iff {target here : Position} {offset found : Nat}
    {cs : List Char} :
    offsetFrom? target here offset cs = some found ↔ ∃ before, before <+: cs ∧
      offset + Text.byteLength before = found ∧ before.foldl next here = target := by
  induction cs generalizing here offset with
  | nil =>
    rw [offsetFrom?]
    split
    next h => exact h ▸ some_eq_some_iff_stays
    next h =>
      refine ⟨nofun, ?_⟩
      rintro ⟨before, hbefore, -, hreach⟩
      rw [List.prefix_nil.1 hbefore] at hreach
      exact absurd hreach h
  | cons c cs ih =>
    rw [offsetFrom?]
    split
    next h => exact h ▸ some_eq_some_iff_stays
    next h =>
      rw [ih]
      constructor
      · rintro ⟨before, hbefore, rfl, hreach⟩
        refine ⟨c :: before, List.cons_prefix_cons.2 ⟨rfl, hbefore⟩, ?_, hreach⟩
        rw [Text.byteLength_cons, Nat.add_assoc]
      · rintro ⟨before, hbefore, rfl, hreach⟩
        cases before with
        | nil => exact absurd hreach h
        | cons d before =>
          obtain ⟨rfl, hrest⟩ := List.cons_prefix_cons.1 hbefore
          exact ⟨before, hrest, by rw [Text.byteLength_cons, Nat.add_assoc], hreach⟩

/-! ## Places of a source -/

/-- The place at an offset of a source is where one stands after the characters before it. -/
theorem ofPoint_eq_foldl_next {source before : List Char}
    (hsize : Text.byteLength source < 2 ^ 32) (hbefore : before <+: source) :
    ofPoint source (.ofOffset source (Text.byteLength before)) = before.foldl next ⟨0, 0⟩ := by
  obtain ⟨after, rfl⟩ := hbefore
  rw [foldl_next_eq, ofPoint_ofOffset hsize]

/-- **Offsets have places of their own in an editor.** In a source that 32 bits can count,
    the place at an offset where a character starts consists of the line breaks before it and
    of the UTF-16 units of the line up to it. A place at a later offset stands strictly later,
    so that going over the source finds from a place the one offset that it belongs to. -/
theorem offsets_have_own_places {source : List Char} (hsize : Text.byteLength source < 2 ^ 32) :
    (∀ offset, Text.Boundary source offset →
      ∃ front line, front ++ line <+: source ∧ Text.byteLength (front ++ line) = offset ∧
        (front = [] ∨ front.getLast? = some '\n') ∧ '\n' ∉ line ∧
        ofPoint source (.ofOffset source offset)
          = ⟨(front ++ line).count '\n', Text.units16 line⟩) ∧
    (∀ a b, Text.Boundary source a → Text.Boundary source b → a < b →
      (ofPoint source (.ofOffset source a)).Before (ofPoint source (.ofOffset source b))) ∧
    ∀ p offset, offset? source p = some offset ↔
      Text.Boundary source offset ∧ ofPoint source (.ofOffset source offset) = p := by
  refine ⟨?_, ?_, ?_⟩
  · rintro _ ⟨before, hbefore, rfl⟩
    obtain ⟨front, hsplit, hfront, hline⟩ := exists_lastLine before
    refine ⟨front, lastLine before, ?_, ?_, hfront, hline, ?_⟩
    · rwa [← hsplit]
    · rw [← hsplit]
    · rw [ofPoint_eq_foldl_next hsize hbefore, foldl_next_eq, ← hsplit]
  · rintro _ _ ⟨before, hbefore, rfl⟩ ⟨later, hlater, rfl⟩ hlt
    obtain ⟨more, rfl⟩ := Text.prefix_of_byteLength_le hbefore hlater hlt.le
    have hmore : more ≠ [] := by
      rintro rfl
      rw [List.append_nil] at hlt
      exact lt_irrefl _ hlt
    rw [ofPoint_eq_foldl_next hsize hbefore, ofPoint_eq_foldl_next hsize hlater,
      List.foldl_append]
    exact before_foldl_next _ hmore
  · intro p offset
    rw [offset?, offsetFrom?_eq_some_iff]
    constructor
    · rintro ⟨before, hbefore, rfl, rfl⟩
      rw [Nat.zero_add]
      exact ⟨⟨before, hbefore, rfl⟩, ofPoint_eq_foldl_next hsize hbefore⟩
    · rintro ⟨⟨before, hbefore, rfl⟩, rfl⟩
      exact ⟨before, hbefore, Nat.zero_add _, (ofPoint_eq_foldl_next hsize hbefore).symm⟩

/-- Behind a letter of two bytes and an emoji of two units, and at the end of the source. -/
theorem offset_found_behind_emoji :
    let source := "é\n\n😀x".toList
    Text.byteLength source < 2 ^ 32 ∧ Text.Boundary source 8 ∧ Text.Boundary source 9 ∧
      ofPoint source (.ofOffset source 8) = ⟨2, 2⟩ ∧
      (ofPoint source (.ofOffset source 8)).Before (ofPoint source (.ofOffset source 9)) ∧
      offset? source ⟨2, 2⟩ = some 8 := by
  intro source
  have hsize : Text.byteLength source < 2 ^ 32 := by decide
  have h8 : Text.Boundary source 8 := by decide
  have h9 : Text.Boundary source 9 := by decide
  have hplace : ofPoint source (.ofOffset source 8) = ⟨2, 2⟩ := by decide
  obtain ⟨-, hbefore, hfound⟩ := offsets_have_own_places hsize
  exact ⟨hsize, h8, h9, hplace, hbefore 8 9 h8 h9 (by decide), (hfound _ 8).2 ⟨h8, hplace⟩⟩

end Position

end Rubric.Editor
