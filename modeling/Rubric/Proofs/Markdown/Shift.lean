/-
  Rubric.Proofs.Markdown.Shift

  A line is read in the same way wherever it stands.

  The offset of a place is carried along and never looked at. So a place that is moved
  by some bytes goes on to the places that it went on to before, moved by the same
  bytes: over blanks, over what continues the open containers, and behind what begins
  there.
-/
import Rubric.Proofs.Markdown.Place

namespace Rubric.Markdown

namespace Place

/-- The place some bytes later. -/
def shift (bytes : Nat) (p : Place) : Place :=
  { p with offset := p.offset + bytes }

variable (d : Nat) (p : Place)

@[simp] theorem shift_rest : (p.shift d).rest = p.rest := rfl

@[simp] theorem shift_offset : (p.shift d).offset = p.offset + d := rfl

@[simp] theorem shift_indent : (p.shift d).indent = p.indent := rfl

@[simp] theorem shift_terminated : (p.shift d).terminated = p.terminated := rfl

theorem atLineEnd_shift : (p.shift d).atLineEnd = p.atLineEnd := rfl

theorem reindent_shift (n : Nat) :
    { p.shift d with indent := n } = shift d { p with indent := n } := rfl

theorem next_shift : (p.shift d).next = p.next.shift d := by
  rcases p with ⟨rest, offset, indent, column, terminated⟩
  cases rest with
  | nil => rfl
  | cons c cs => simp [next, shift, Nat.add_right_comm]

theorem skip_shift (n : Nat) : skip n (p.shift d) = (skip n p).shift d := by
  induction n generalizing p with
  | zero => rfl
  | succ n ih => rw [skip, skip, next_shift, ih]

theorem walkBlanks_shift (limit : Option Nat) (cs : List Char) :
    walkBlanks limit cs (p.shift d) = (walkBlanks limit cs p).shift d := by
  induction cs generalizing p with
  | nil => rfl
  | cons c cs ih =>
    simp only [walkBlanks, next_shift]
    rw [apply_ite (shift d), ← ih]
    rfl

theorem skipBlanks_shift : (p.shift d).skipBlanks = p.skipBlanks.shift d :=
  walkBlanks_shift d p none p.rest

theorem skipTo_shift (limit : Nat) : (p.shift d).skipTo limit = (p.skipTo limit).shift d :=
  walkBlanks_shift d p (some limit) p.rest

theorem skipOneBlank_shift : (p.shift d).skipOneBlank = p.skipOneBlank.shift d := by
  simp only [skipOneBlank, shift_rest]
  split
  · rw [next_shift, apply_ite (shift d)]
    rfl
  · rfl

end Place

open Place

/-! ## Continuing a line -/

variable (d : Nat) (p : Place)

theorem Frame.continue_shift (f : Frame) :
    f.continue (p.shift d) = ((f.continue p).map (shift d)).mapError (shift d) := by
  cases f with
  | quote =>
    simp only [Frame.continue, skipBlanks_shift, shift_rest]
    split
    · simp only [next_shift, reindent_shift, skipOneBlank_shift]
      rfl
    · rfl
  | item width =>
    simp only [Frame.continue, skipTo_shift, shift_indent, atLineEnd_shift]
    split
    · rfl
    split
    · rfl
    · rfl
  | indented =>
    simp only [Frame.continue, skipTo_shift, shift_indent, atLineEnd_shift]
    split
    · rfl
    · rfl
  | free => rfl

theorem continueFrames_shift (frames : List Frame) :
    continueFrames (p.shift d) frames
      = ((continueFrames p frames).1, (continueFrames p frames).2.shift d) := by
  induction frames generalizing p with
  | nil => rfl
  | cons f fs ih =>
    unfold continueFrames
    rw [Frame.continue_shift]
    cases f.continue p with
    | ok q => simp only [Except.map, Except.mapError, ih]
    | error q => rfl

/-! ## What begins at a place -/

namespace Opening

/-- What begins, with the place where the line goes on some bytes later. -/
def shift (bytes : Nat) : Opening → Opening
  | .quote after => .quote (after.shift bytes)
  | .heading level after => .heading level (after.shift bytes)
  | .item bullet width weak after => .item bullet width weak (after.shift bytes)
  | .fence mark length info => .fence mark length (info.shift bytes)
  | .underline level => .underline level
  | .thematicBreak => .thematicBreak
  | .html kind rest => .html kind rest

theorem runLength_shift (mark : Char) : runLength mark (p.shift d) = runLength mark p := rfl

theorem row_shift (mark : Char) : row mark (p.shift d) = row mark p := rfl

theorem fence?_shift (mark : Char) :
    fence? mark (p.shift d) = (fence? mark p).map (shift d) := by
  simp only [fence?, runLength_shift, skip_shift, shift_rest]
  rw [apply_ite (Option.map (shift d))]
  rfl

theorem heading?_shift : heading? (p.shift d) = (heading? p).map (shift d) := by
  simp only [heading?, runLength_shift, skip_shift, shift_rest, shift_indent, shift_terminated]
  rw [apply_ite (Option.map (shift d))]
  rfl

theorem item?_shift (bullet : Bullet) (digits indent : Nat) (weakMark inside : Bool) :
    item? bullet digits indent weakMark inside (p.shift d)
      = (item? bullet digits indent weakMark inside p).map (shift d) := by
  simp only [item?, reindent_shift, skipBlanks_shift, atLineEnd_shift, shift_indent]
  rw [apply_ite (Option.map (shift d)), apply_ite (Option.map (shift d))]
  rfl

theorem numbered?_shift (inside : Bool) :
    numbered? inside (p.shift d) = (numbered? inside p).map (shift d) := by
  simp only [numbered?, skip_shift, shift_rest, shift_indent, next_shift, item?_shift]
  rw [apply_ite (Option.map (shift d))]
  congr 1
  split
  · rfl
  · rfl
  · rfl

theorem star?_shift (inside : Bool) :
    star? inside (p.shift d) = (star? inside p).map (shift d) := by
  simp only [star?, row_shift, shift_indent, next_shift, item?_shift]
  rw [apply_ite (Option.map (shift d))]
  rfl

theorem minus?_shift (underlines inside : Bool) :
    minus? underlines inside (p.shift d) = (minus? underlines inside p).map (shift d) := by
  simp only [minus?, row_shift, shift_rest, shift_indent, next_shift, item?_shift]
  simp only [apply_ite (Option.map (shift d))]
  rfl

theorem at?_shift (underlines inside : Bool) :
    at? underlines inside (p.shift d) = (at? underlines inside p).map (shift d) := by
  have hends : ∀ cs, endsLine cs (p.shift d) = endsLine cs p := fun _ => rfl
  have hquote : skipOneBlank { (p.shift d).next with indent := 0 }
      = (skipOneBlank { p.next with indent := 0 }).shift d := by
    rw [← skipOneBlank_shift, next_shift]
    rfl
  simp only [at?, shift_rest, hquote]
  split
  · rfl
  next c cs hrest =>
    simp only [fence?_shift, star?_shift, row_shift, next_shift, heading?_shift, hends,
      shift_indent, item?_shift, numbered?_shift, minus?_shift, shift_terminated]
    simp only [apply_ite (Option.map (shift d)), Option.map_map]
    rfl

end Opening

end Rubric.Markdown
