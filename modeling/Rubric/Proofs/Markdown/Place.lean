/-
  Rubric.Proofs.Markdown.Place

  Reading a line only goes forward.

  A place reaches another one on the same line if the other comes about by passing
  over characters. Everything that moves along a line reaches the place where it
  ends up: passing over blanks, continuing containers, and what begins at a place.
  The lines of a source in turn follow one another.
-/
import Rubric.Proofs.Markdown.Trimmed
import Rubric.Proofs.Text.Range

namespace Rubric.Markdown

/-! ## Places -/

/-- The second place comes about from the first by passing over some characters. -/
def Place.Reaches (p q : Place) : Prop :=
  ∃ passed, p.rest = passed ++ q.rest ∧ q.offset = p.offset + Text.byteLength passed

namespace Place

theorem Reaches.refl (p : Place) : p.Reaches p := ⟨[], rfl, rfl⟩

theorem Reaches.trans {p q r : Place} (hpq : p.Reaches q) (hqr : q.Reaches r) :
    p.Reaches r := by
  obtain ⟨first, hfirst, hoffset⟩ := hpq
  obtain ⟨second, hsecond, hoffset'⟩ := hqr
  refine ⟨first ++ second, ?_, ?_⟩
  · rw [hfirst, hsecond, List.append_assoc]
  · rw [hoffset', hoffset, Text.byteLength_append, Nat.add_assoc]

theorem Reaches.offset_le {p q : Place} (h : p.Reaches q) : p.offset ≤ q.offset := by
  obtain ⟨passed, -, hoffset⟩ := h
  omega

theorem Reaches.rest_suffix {p q : Place} (h : p.Reaches q) : q.rest <:+ p.rest := by
  obtain ⟨passed, hrest, -⟩ := h
  exact ⟨passed, hrest.symm⟩

/-- Where the line stops does not change on the way. -/
theorem Reaches.offset_add {p q : Place} (h : p.Reaches q) :
    q.offset + Text.byteLength q.rest = p.offset + Text.byteLength p.rest := by
  obtain ⟨passed, hrest, hoffset⟩ := h
  rw [hoffset, hrest, Text.byteLength_append]
  omega

/-- The indentation is no part of where a place is. -/
theorem Reaches.reindent {p q : Place} (h : p.Reaches q) (n : Nat) :
    p.Reaches { q with indent := n } := h

theorem reaches_next (p : Place) : p.Reaches p.next := by
  unfold next
  split
  next => exact Reaches.refl p
  next c cs hrest => exact ⟨[c], hrest, rfl⟩

theorem reaches_skip (n : Nat) (p : Place) : p.Reaches (skip n p) := by
  induction n generalizing p with
  | zero => exact Reaches.refl p
  | succ n ih => exact (reaches_next p).trans (ih p.next)

theorem reaches_walkBlanks (limit : Option Nat) (cs : List Char) (p : Place) :
    p.Reaches (walkBlanks limit cs p) := by
  induction cs generalizing p with
  | nil => exact Reaches.refl p
  | cons c cs ih =>
    unfold walkBlanks
    split
    · exact ((reaches_next p).reindent _).trans (ih _)
    · exact Reaches.refl p

theorem reaches_skipBlanks (p : Place) : p.Reaches p.skipBlanks :=
  reaches_walkBlanks none p.rest p

theorem reaches_skipTo (limit : Nat) (p : Place) : p.Reaches (skipTo limit p) :=
  reaches_walkBlanks (some limit) p.rest p

theorem reaches_skipOneBlank (p : Place) : p.Reaches p.skipOneBlank := by
  unfold skipOneBlank
  split
  next =>
    split
    · exact reaches_next p
    · exact Reaches.refl p
  next => exact Reaches.refl p

end Place

/-! ## Continuing a line -/

open Place

/-- A frame is continued up to a place that is reached, or fails at one. -/
theorem Frame.continue_reaches {p q : Place} {f : Frame}
    (h : f.continue p = .ok q ∨ f.continue p = .error q) : p.Reaches q := by
  -- A frame passes over blanks first, and those stay passed where it fails.
  cases f with
  | quote =>
    have hblanks := reaches_skipBlanks p
    have hmark := (reaches_next p.skipBlanks).reindent 0
    simp only [Frame.continue] at h
    split at h
    · obtain rfl := by simpa using h
      exact (hblanks.trans hmark).trans (reaches_skipOneBlank _)
    · obtain rfl := by simpa using h
      exact hblanks
  | item width =>
    have hblanks := reaches_skipTo width p
    simp only [Frame.continue] at h
    split at h
    · obtain rfl := by simpa using h
      exact hblanks.reindent _
    split at h
    · obtain rfl := by simpa using h
      exact hblanks.reindent _
    · obtain rfl := by simpa using h
      exact hblanks
  | indented =>
    have hblanks := reaches_skipTo 4 p
    simp only [Frame.continue] at h
    split at h
    · obtain rfl := by simpa using h
      exact hblanks.reindent _
    · obtain rfl := by simpa using h
      exact hblanks
  | free =>
    obtain rfl : p = q := by simpa [Frame.continue] using h
    exact Reaches.refl p

theorem continueFrames_reaches (p : Place) (frames : List Frame) :
    p.Reaches (continueFrames p frames).2 := by
  induction frames generalizing p with
  | nil => exact Reaches.refl p
  | cons f fs ih =>
    unfold continueFrames
    cases hf : f.continue p with
    | ok q => exact (Frame.continue_reaches (Or.inl hf)).trans (ih q)
    | error q => exact Frame.continue_reaches (Or.inr hf)

/-! ## What begins at a place -/

/-- The line goes on at a place that is reached, and a line is only taken for an underline
    where one can be. -/
def Opening.Fits (underlines : Bool) (p : Place) : Opening → Prop
  | .underline _ => underlines = true
  | .quote after | .heading _ after | .item _ _ _ after | .fence _ _ after => p.Reaches after
  | .thematicBreak | .html _ _ => True

namespace Opening

variable {p : Place} {opening : Opening} {underlines inside : Bool}

theorem Fits.of_reaches {q : Place} (h : opening.Fits underlines q) (hpq : p.Reaches q) :
    opening.Fits underlines p := by
  cases opening with
  | underline level => exact h
  | thematicBreak => trivial
  | html kind rest => trivial
  | _ => exact hpq.trans h

theorem fence?_fits {mark : Char} (h : fence? mark p = some opening) :
    opening.Fits underlines p := by
  unfold fence? at h
  extract_lets n after at h
  split at h
  · obtain rfl := Option.some.inj h
    exact reaches_skip n p
  · cases h

theorem heading?_fits (h : heading? p = some opening) : opening.Fits underlines p := by
  unfold heading? at h
  extract_lets n after closed at h
  split at h
  · obtain rfl := Option.some.inj h
    exact (reaches_skip n p).reindent 0
  · cases h

theorem item?_fits {bullet : Bullet} {digits indent : Nat} {weakMark : Bool}
    (h : item? bullet digits indent weakMark inside p = some opening) :
    opening.Fits underlines p := by
  unfold item? at h
  extract_lets content isEmpty gap weak at h
  have hblanks : p.Reaches content := ((Reaches.refl p).reindent 0).trans (reaches_skipBlanks _)
  split at h
  · cases h
  -- Of more than four blanks all but the first stay with the content, as indentation.
  split at h
  · obtain rfl := Option.some.inj h
    exact hblanks.reindent 0
  · obtain rfl := Option.some.inj h
    exact hblanks.reindent (gap - 1)

theorem numbered?_fits (h : numbered? inside p = some opening) : opening.Fits underlines p := by
  unfold numbered? at h
  extract_lets digits n after at h
  have hmark : p.Reaches after.next := (reaches_skip n p).trans (reaches_next after)
  split at h
  · cases h
  split at h
  · exact (item?_fits h).of_reaches hmark
  · exact (item?_fits h).of_reaches hmark
  · cases h

theorem star?_fits (h : star? inside p = some opening) : opening.Fits underlines p := by
  unfold star? at h
  split at h
  split at h
  · obtain rfl := Option.some.inj h
    trivial
  · exact (item?_fits h).of_reaches (reaches_next p)

theorem minus?_fits (h : minus? underlines inside p = some opening) :
    opening.Fits underlines p := by
  unfold minus? at h
  extract_lets unbroken at h
  split at h
  split at h
  · cases h
  split at h
  next hunderline =>
    obtain rfl := Option.some.inj h
    simp only [Bool.and_eq_true] at hunderline
    exact hunderline.1.1.1
  split at h
  · obtain rfl := Option.some.inj h
    trivial
  · exact (item?_fits h).of_reaches (reaches_next p)

theorem at?_fits (h : at? underlines inside p = some opening) : opening.Fits underlines p := by
  unfold at? at h
  split at h
  · cases h
  -- The characters are taken in the order they are tried. Splitting `h` instead would
  -- simplify the whole chain at each of them.
  rcases ite_eq_iff.1 h with ⟨-, h⟩ | ⟨-, h⟩
  · exact fence?_fits h
  rcases ite_eq_iff.1 h with ⟨-, h⟩ | ⟨-, h⟩
  · exact star?_fits h
  rcases ite_eq_iff.1 h with ⟨-, h⟩ | ⟨-, h⟩
  · rcases ite_eq_iff.1 h with ⟨-, h⟩ | ⟨-, h⟩
    · obtain rfl := Option.some.inj h
      trivial
    · cases h
  rcases ite_eq_iff.1 h with ⟨-, h⟩ | ⟨-, h⟩
  · obtain rfl := Option.some.inj h
    exact ((reaches_next p).reindent 0).trans (reaches_skipOneBlank _)
  rcases ite_eq_iff.1 h with ⟨-, h⟩ | ⟨-, h⟩
  · exact heading?_fits h
  rcases ite_eq_iff.1 h with ⟨-, h⟩ | ⟨-, h⟩
  · rcases ite_eq_iff.1 h with ⟨hunderline, h⟩ | ⟨-, h⟩
    · obtain rfl := Option.some.inj h
      simp only [Bool.and_eq_true] at hunderline
      exact hunderline.1.1
    · cases h
  rcases ite_eq_iff.1 h with ⟨-, h⟩ | ⟨-, h⟩
  · rcases ite_eq_iff.1 h with ⟨-, h⟩ | ⟨-, h⟩
    · exact (item?_fits h).of_reaches (reaches_next p)
    · cases h
  rcases ite_eq_iff.1 h with ⟨-, h⟩ | ⟨-, h⟩
  · exact numbered?_fits h
  rcases ite_eq_iff.1 h with ⟨-, h⟩ | ⟨-, h⟩
  · exact minus?_fits h
  rcases ite_eq_iff.1 h with ⟨-, h⟩ | ⟨-, h⟩
  · obtain ⟨found, -, rfl⟩ := Option.map_eq_some_iff.1 h
    trivial
  · cases h

end Opening

/-! ## Lines -/

/-- The offsets where a line starts and stops. -/
def SourceLine.ends (line : SourceLine) : Nat × Nat :=
  (line.start, line.stop)

/-- The place lies on the line. -/
def SourceLine.On (line : SourceLine) (p : Place) : Prop :=
  line.place.Reaches p

namespace SourceLine

variable {line : SourceLine} {p : Place} (h : line.On p)
include h

theorem On.start_le : line.start ≤ p.offset := h.offset_le

theorem On.le_stop : p.offset ≤ line.stop := by
  have hend : p.offset + Text.byteLength p.rest = line.start + Text.byteLength line.text :=
    Reaches.offset_add h
  unfold stop
  omega

theorem On.reaches {q : Place} (hpq : p.Reaches q) : line.On q := h.trans hpq

theorem On.not_mem_rest {c : Char} (hc : c ∉ line.text) : c ∉ p.rest :=
  fun hrest => hc ((Reaches.rest_suffix h).subset hrest)

end SourceLine

theorem ends_mk {begun here : Nat} {line : List Char} (ending : Nat)
    (hhere : begun + Text.byteLength line = here) :
    SourceLine.ends ⟨begun, line.reverse, ending⟩ = (begun, here + ending) := by
  rw [SourceLine.ends, SourceLine.stop, Text.byteLength_reverse, hhere]

/-- A line and those after its line end. -/
theorem within_cons_line {begun here ending length : Nat} {line : List Char}
    {lines : List SourceLine} (hhere : begun + Text.byteLength line = here)
    (hrest : Within (here + ending) (here + ending + length) (lines.map SourceLine.ends)) :
    Within begun (here + (ending + length))
      ((⟨begun, line.reverse, ending⟩ :: lines : List SourceLine).map SourceLine.ends) := by
  have hforward : begun ≤ here + ending := by omega
  rw [List.map_cons, ends_mk ending hhere, within_cons, ← Nat.add_assoc]
  exact ⟨Nat.le_refl _, hforward, hrest⟩

/-- Cutting a text into lines gives lines in order, from where the first one begins to
    where the text ends. -/
theorem cutLines_within (begun here : Nat) (line cs : List Char)
    (hhere : begun + Text.byteLength line = here) :
    Within begun (here + Text.byteLength cs)
      ((cutLines begun here line cs).map SourceLine.ends) := by
  -- The line so far reaches from `begun` to `here`. A line end closes it, and the next line
  -- begins right after that with nothing in it.
  fun_induction cutLines begun here line cs with
  | case1 here begun line =>
    have hforward : begun ≤ here := by omega
    rw [List.map_nil, within_nil]
    exact hforward
  | case2 here begun line =>
    have hlast : Within (here + 0) (here + 0 + 0) (([] : List SourceLine).map SourceLine.ends) :=
      Nat.le_refl _
    exact within_cons_line hhere hlast
  | case3 begun here line cs ih => exact within_cons_line hhere (ih rfl)
  | case4 begun here line cs ih =>
    -- A carriage return and a line feed make one line end of two bytes.
    rw [Text.byteLength_cons, Text.byteLength_cons, ← Nat.add_assoc ('\r').utf8Size]
    exact within_cons_line hhere (ih rfl)
  | case5 begun here line cs _ ih => exact within_cons_line hhere (ih rfl)
  | case6 begun here line c cs _ _ _ ih =>
    rw [Text.byteLength_cons, ← Nat.add_assoc]
    refine ih ?_
    rw [Text.byteLength_cons]
    omega

theorem skipData_suffix (mark : Char) (lines : List SourceLine) :
    skipData mark lines <:+ lines := by
  unfold skipData
  split
  next first rest =>
    extract_lets p isFence
    split
    · split
      next head after hdrop =>
        have hfence : head :: after <:+ rest := hdrop ▸ List.dropWhile_suffix _
        have hafter : after <:+ rest := (List.suffix_cons head after).trans hfence
        exact hafter.trans (List.suffix_cons first rest)
      next => exact List.suffix_rfl
    · exact List.suffix_rfl
  next => exact List.suffix_rfl

theorem bodyLines_suffix (source : List Char) : bodyLines source <:+ sourceLines source := by
  unfold bodyLines
  simp only
  split
  · exact skipData_suffix _ _
  · exact List.nil_suffix

/-- The lines of a source are in order inside the source. -/
theorem bodyLines_within (source : List Char) :
    Within 0 (Text.byteLength source) ((bodyLines source).map SourceLine.ends) := by
  refine Within.sublist ?_ ((bodyLines_suffix source).sublist.map SourceLine.ends)
  unfold sourceLines
  split
  next rest =>
    -- The byte order mark takes up three bytes before the first line.
    exact (cutLines_within 3 3 [] rest rfl).mono (Nat.zero_le 3) (Nat.le_refl _)
  next =>
    have hlines := cutLines_within 0 0 [] source rfl
    rwa [Nat.zero_add] at hlines

end Rubric.Markdown
