/-
  Rubric.Proofs.Markdown.Reader

  The nodes of a source are in order.

  Between two lines the nodes that stand in no container are in order, the
  outermost container begins after the last of them, and what the open leaf holds
  begins after that. `Reader.Sound` says this up to an offset, and taking a line
  carries it from where the line starts to where it stops. What stands inside a
  container needs no order: only its outermost one takes part.
-/
import Rubric.Proofs.Markdown.Definitions
import Rubric.Proofs.Markdown.Lines

namespace Rubric.Markdown

/-- What a leaf holds lies between two offsets, in order. -/
def Leaf.Between (lo hi : Nat) : Leaf → Prop
  | .nothing => lo ≤ hi
  | .paragraph lines => Within lo hi (lines.reverse.map ParagraphLine.ends) ∧ Reader.Unbroken lines
  | .indented start stop _ => lo ≤ start ∧ start ≤ stop ∧ stop ≤ hi
  | .fenced _ _ _ start _ _ | .html _ start | .table start _ => lo ≤ start ∧ start ≤ hi

namespace Leaf

variable {lo hi : Nat} {leaf : Leaf}

theorem Between.le (h : leaf.Between lo hi) : lo ≤ hi := by
  cases leaf with
  | nothing => exact h
  | paragraph lines => exact h.1.le
  | indented start stop paused =>
    obtain ⟨hlo, hforward, hhi⟩ := h
    omega
  | _ =>
    obtain ⟨hlo, hhi⟩ := h
    omega

theorem Between.mono (h : leaf.Between lo hi) {lo' hi' : Nat} (hlo : lo' ≤ lo) (hhi : hi ≤ hi') :
    leaf.Between lo' hi' := by
  cases leaf with
  | nothing =>
    show lo' ≤ hi'
    exact (hlo.trans h).trans hhi
  | paragraph lines => exact ⟨h.1.mono hlo hhi, h.2⟩
  | indented start stop paused =>
    obtain ⟨hstart, hforward, hstop⟩ := h
    exact ⟨hlo.trans hstart, hforward, hstop.trans hhi⟩
  | _ =>
    obtain ⟨hstart, hbefore⟩ := h
    exact ⟨Nat.le_trans hlo hstart, Nat.le_trans hbefore hhi⟩

end Leaf

namespace Reader

variable {r s : Reader} {lo hi : Nat}

/-! ## The top -/

/-- Where the open containers start, innermost first. -/
def starts (r : Reader) : List Nat :=
  r.stack.map Container.start

/-- The nodes outside of all containers are in order and end before the outermost
    container starts, which starts no later than `hi`; without a container the nodes end
    before `hi`. -/
def Clear (r : Reader) (hi : Nat) : Prop :=
  match r.starts.getLast? with
  | none => Within 0 hi (r.done.reverse.map Node.ends)
  | some start => Within 0 start (r.done.reverse.map Node.ends) ∧ start ≤ hi

theorem Clear.mono (h : r.Clear lo) (hle : lo ≤ hi) : r.Clear hi := by
  unfold Clear at *
  cases hstarts : r.starts.getLast? with
  | none =>
    rw [hstarts] at h
    exact h.mono (Nat.le_refl 0) hle
  | some start =>
    rw [hstarts] at h
    exact ⟨h.1, h.2.trans hle⟩

/-- The second state has the containers of the first one, and inside of them nothing is
    added at the top. -/
structure Grows (r s : Reader) : Prop where
  starts : s.starts = r.starts
  done : r.starts ≠ [] → s.done = r.done

theorem Grows.refl (r : Reader) : r.Grows r := ⟨rfl, fun _ => rfl⟩

theorem Grows.trans {t : Reader} (hrs : r.Grows s) (hst : s.Grows t) : r.Grows t :=
  ⟨hst.starts.trans hrs.starts, fun h => (hst.done (by rwa [hrs.starts])).trans (hrs.done h)⟩

theorem Grows.clear (h : r.Grows s) (hinside : r.starts ≠ []) (hclear : r.Clear hi) :
    s.Clear hi := by
  unfold Clear at *
  rwa [h.starts, h.done hinside]

/-! ## Adding nodes -/

theorem add_leaf (r : Reader) (node : Node) : (r.add node).leaf = r.leaf := by
  unfold add
  split <;> rfl

theorem add_grows (r : Reader) (node : Node) : r.Grows (r.add node) := by
  unfold add
  split
  next c cs hstack =>
    refine ⟨?_, fun _ => rfl⟩
    rw [Reader.starts, Reader.starts, hstack]
    rfl
  next hstack =>
    refine ⟨rfl, fun hinside => absurd ?_ hinside⟩
    rw [Reader.starts, hstack]
    rfl

theorem add_clear {node : Node} (h : r.Clear lo) (hnode : Within lo hi [node.ends]) :
    (r.add node).Clear hi := by
  cases hstack : r.stack with
  | nil =>
    have hstarts : r.starts = [] := by rw [Reader.starts, hstack, List.map_nil]
    have hadd : r.add node = { r with done := node :: r.done } := by
      unfold add
      rw [hstack]
    unfold Clear at *
    rw [(add_grows r node).starts]
    rw [hstarts] at h ⊢
    rw [hadd, List.reverse_cons, List.map_append]
    exact within_append.2 ⟨lo, h, hnode⟩
  | cons c cs =>
    -- Inside of a container nothing changes at the top.
    have hinside : r.starts ≠ [] := by simp [Reader.starts, hstack]
    exact ((add_grows r node).clear hinside h).mono hnode.le

theorem foldl_add_leaf (r : Reader) (ranges : List Stretch) :
    (ranges.foldl (fun r range => r.add (.other range)) r).leaf = r.leaf := by
  induction ranges generalizing r with
  | nil => rfl
  | cons range ranges ih => rw [List.foldl_cons, ih, add_leaf]

theorem foldl_add_grows (r : Reader) (ranges : List Stretch) :
    r.Grows (ranges.foldl (fun r range => r.add (.other range)) r) := by
  induction ranges generalizing r with
  | nil => exact Grows.refl r
  | cons range ranges ih => exact (add_grows r _).trans (ih _)

theorem foldl_add_clear {ranges : List Stretch} (h : r.Clear lo)
    (hranges : Within lo hi (ranges.map Stretch.ends)) :
    (ranges.foldl (fun r range => r.add (.other range)) r).Clear hi := by
  induction ranges generalizing r lo with
  | nil => exact h.mono hranges
  | cons range ranges ih =>
    obtain ⟨hlo, hforward, hrest⟩ := hranges
    have hrange : Within lo range.ends.2 [range.ends] := ⟨hlo, hforward, Nat.le_refl _⟩
    exact ih (add_clear h hrange) hrest

/-! ## Paragraphs and other leaves -/

theorem addDefinitions_leaf (r : Reader) (lines : List ParagraphLine) :
    (r.addDefinitions lines).1.leaf = r.leaf :=
  foldl_add_leaf r _

theorem addDefinitions_grows (r : Reader) (lines : List ParagraphLine) :
    r.Grows (r.addDefinitions lines).1 :=
  foldl_add_grows r _

/-- The lines that are left after the definitions come after what has been added. -/
theorem addDefinitions_clear {lines : List ParagraphLine} (h : r.Clear lo)
    (hlines : Within lo hi (lines.reverse.map ParagraphLine.ends)) (hunbroken : Unbroken lines) :
    ∃ mid, (r.addDefinitions lines).1.Clear mid ∧
      Within mid hi ((r.addDefinitions lines).2.map ParagraphLine.ends) := by
  have hreverse : Unbroken lines.reverse := fun l hl => hunbroken l (List.mem_reverse.1 hl)
  obtain ⟨hcut, -⟩ := cutDefinitions_within lines.length hreverse hlines
  obtain ⟨mid, hranges, hleft⟩ := within_append.1 hcut
  exact ⟨mid, foldl_add_clear h hranges, hleft⟩

theorem addParagraph_leaf (r : Reader) (lines : List ParagraphLine) :
    (r.addParagraph lines).leaf = r.leaf := by
  unfold addParagraph
  split
  · rfl
  · exact add_leaf r _

theorem addParagraph_grows (r : Reader) (lines : List ParagraphLine) :
    r.Grows (r.addParagraph lines) := by
  unfold addParagraph
  split
  · exact Grows.refl r
  · exact add_grows r _

theorem addParagraph_clear {lines : List ParagraphLine} (h : r.Clear lo)
    (hlines : Within lo hi (lines.map ParagraphLine.ends)) : (r.addParagraph lines).Clear hi := by
  unfold addParagraph
  split
  · exact h.mono hlines.le
  next hne => exact add_clear h (rangeOf_within (by simpa using hne) hlines)

theorem closeLeaf_leaf (r : Reader) (stop : Nat) : (r.closeLeaf stop).leaf = .nothing := by
  unfold closeLeaf
  extract_lets cleared
  split
  next hleaf => exact hleaf
  next lines hleaf => exact (addParagraph_leaf _ _).trans (addDefinitions_leaf cleared lines)
  all_goals exact add_leaf cleared _

theorem closeLeaf_grows (r : Reader) (stop : Nat) : r.Grows (r.closeLeaf stop) := by
  unfold closeLeaf
  extract_lets cleared
  have hcleared : r.Grows cleared := ⟨rfl, fun _ => rfl⟩
  split
  · exact Grows.refl r
  next lines hleaf =>
    exact (hcleared.trans (addDefinitions_grows cleared lines)).trans (addParagraph_grows _ _)
  all_goals exact hcleared.trans (add_grows cleared _)

/-- The leaf is added behind everything else. -/
theorem closeLeaf_clear {stop : Nat} (h : r.Clear lo) (hleaf : r.leaf.Between lo hi)
    (hstop : hi ≤ stop) : (r.closeLeaf stop).Clear stop := by
  unfold closeLeaf
  extract_lets cleared
  have hcleared : cleared.Clear lo := h
  split
  next hnothing => exact h.mono (hleaf.le.trans hstop)
  next lines hlines =>
    rw [hlines] at hleaf
    obtain ⟨mid, hadded, hleft⟩ := addDefinitions_clear hcleared hleaf.1 hleaf.2
    exact (addParagraph_clear hadded hleft).mono hstop
  next start codeStop paused hindented =>
    rw [hindented] at hleaf
    -- Paused code ends with its last chunk, and other code here.
    obtain ⟨hlo, hforward, hhi⟩ := hleaf
    refine add_clear hcleared ⟨hlo, ?_, ?_⟩
    · show start ≤ if paused then codeStop else stop
      split <;> omega
    · show (if paused then codeStop else stop) ≤ stop
      split <;> omega
  all_goals
    next hopen =>
      rw [hopen] at hleaf
      obtain ⟨hstart, hbefore⟩ := hleaf
      exact add_clear hcleared ⟨hstart, hbefore.trans hstop, Nat.le_refl stop⟩

/-! ## Containers -/

theorem closeContainer_starts (r : Reader) (stop : Nat) :
    (r.closeContainer stop).starts = r.starts.tail := by
  unfold closeContainer
  split
  next hstack => rw [Reader.starts, hstack]; rfl
  next c cs hstack =>
    extract_lets node
    rw [(add_grows _ node).starts, Reader.starts, Reader.starts, hstack]
    rfl

theorem closeContainer_leaf (r : Reader) (stop : Nat) :
    (r.closeContainer stop).leaf = r.leaf := by
  unfold closeContainer
  split
  · rfl
  · exact add_leaf _ _

theorem closeContainer_clear {stop : Nat} (h : r.Clear stop) :
    (r.closeContainer stop).Clear stop := by
  unfold closeContainer
  split
  · exact h
  next c cs hstack =>
    extract_lets node
    have hnode : node.ends = (c.start, stop) := by
      dsimp only [node]
      cases c.kind <;> rfl
    have hstarts : r.starts = c.start :: cs.map Container.start := by
      rw [Reader.starts, hstack, List.map_cons]
    unfold Clear at h
    rw [hstarts] at h
    cases cs with
    | nil =>
      -- The outermost container becomes a node at the top.
      have hempty : Clear { r with stack := [] } c.start := h.1
      refine add_clear hempty ?_
      rw [hnode]
      exact ⟨Nat.le_refl _, h.2, Nat.le_refl _⟩
    | cons next cs =>
      have hnext : Clear { r with stack := next :: cs } stop := h
      exact (add_grows _ node).clear (by simp [Reader.starts]) hnext

theorem closeContainers_leaf (stop n : Nat) (r : Reader) :
    (closeContainers stop n r).leaf = r.leaf := by
  induction n generalizing r with
  | zero => rfl
  | succ n ih => rw [closeContainers, ih, closeContainer_leaf]

theorem closeContainers_starts (stop n : Nat) (r : Reader) :
    (closeContainers stop n r).starts = r.starts.drop n := by
  induction n generalizing r with
  | zero => rfl
  | succ n ih => rw [closeContainers, ih, closeContainer_starts, List.drop_tail]

theorem closeContainers_clear {stop : Nat} (n : Nat) (h : r.Clear stop) :
    (closeContainers stop n r).Clear stop := by
  induction n generalizing r with
  | zero => exact h
  | succ n ih => exact ih (closeContainer_clear h)

/-- A container that begins where everything else ends. -/
theorem push_clear (h : r.Clear hi) (kind : ContainerKind) :
    Clear { r with stack := ⟨kind, hi, []⟩ :: r.stack } hi := by
  unfold Clear at *
  have hstarts : starts { r with stack := ⟨kind, hi, []⟩ :: r.stack } = hi :: r.starts := rfl
  rw [hstarts, List.getLast?_cons]
  cases hlast : r.starts.getLast? with
  | none =>
    rw [hlast] at h
    exact ⟨h, Nat.le_refl hi⟩
  | some start =>
    rw [hlast] at h
    exact h

/-! ## Sound states -/

/-- All that has been read up to `here` is in order: what is closed, and what the leaf
    holds. -/
def Sound (r : Reader) (here : Nat) : Prop :=
  ∃ lo, r.Clear lo ∧ r.leaf.Between lo here

/-- No leaf is open, and what is closed up to `here` is in order. -/
def Idle (r : Reader) (here : Nat) : Prop :=
  r.leaf = .nothing ∧ r.Clear here

/-- All that has been read up to `here` is in order: what is closed, the lines of a
    paragraph that ends right here, and what the leaf holds. There are such lines only
    where there is no leaf. -/
def Ready (r : Reader) (above : List ParagraphLine) (here : Nat) : Prop :=
  (above = [] ∨ r.leaf = .nothing) ∧
  ∃ lo mid, r.Clear lo ∧ Within lo mid (above.map ParagraphLine.ends) ∧ r.leaf.Between mid here

section
variable {above : List ParagraphLine} {here later : Nat}

theorem Sound.mono (h : r.Sound here) (hle : here ≤ later) : r.Sound later := by
  obtain ⟨lo, hclear, hleaf⟩ := h
  exact ⟨lo, hclear, hleaf.mono (Nat.le_refl lo) hle⟩

theorem Sound.closeLeaf (h : r.Sound here) (hle : here ≤ later) :
    (r.closeLeaf later).Idle later := by
  obtain ⟨lo, hclear, hleaf⟩ := h
  exact ⟨closeLeaf_leaf r later, closeLeaf_clear hclear hleaf hle⟩

theorem Idle.sound (h : r.Idle here) (hle : here ≤ later) : r.Sound later := by
  obtain ⟨hnothing, hclear⟩ := h
  refine ⟨here, hclear, ?_⟩
  rw [hnothing]
  exact hle

theorem Idle.add (h : r.Idle here) {node : Node} (hnode : Within here later [node.ends]) :
    (r.add node).Idle later :=
  ⟨(add_leaf r node).trans h.1, add_clear h.2 hnode⟩

theorem Idle.addParagraph (h : r.Idle here)
    (habove : Within here later (above.map ParagraphLine.ends)) :
    (r.addParagraph above).Idle later :=
  ⟨(addParagraph_leaf r above).trans h.1, addParagraph_clear h.2 habove⟩

theorem Idle.push (h : r.Idle here) (kind : ContainerKind) :
    Idle { r with stack := ⟨kind, here, []⟩ :: r.stack } here :=
  ⟨h.1, push_clear h.2 kind⟩

theorem Idle.openLeaf (h : r.Idle here) (leaf : Leaf) (closing : Bool)
    (hleaf : leaf.Between here later) : Sound { r with leaf := leaf, closing := closing } later :=
  ⟨here, h.2, hleaf⟩

theorem Sound.ready (h : r.Sound here) : r.Ready [] here := by
  obtain ⟨lo, hclear, hleaf⟩ := h
  exact ⟨Or.inl rfl, lo, lo, hclear, within_nil.2 (Nat.le_refl lo), hleaf⟩

theorem Ready.sound (h : r.Ready above here) : r.Sound here := by
  obtain ⟨-, lo, mid, hclear, habove, hleaf⟩ := h
  exact ⟨lo, hclear, hleaf.mono habove.le (Nat.le_refl here)⟩

theorem Ready.mono (h : r.Ready above here) (hle : here ≤ later) : r.Ready above later := by
  obtain ⟨hfree, lo, mid, hclear, habove, hleaf⟩ := h
  exact ⟨hfree, lo, mid, hclear, habove, hleaf.mono (Nat.le_refl mid) hle⟩

/-- The leaf that is there can be replaced by another one in its place. -/
theorem Ready.replaceLeaf (h : r.Ready above here) (hthere : r.leaf ≠ .nothing) {leaf : Leaf}
    (hleaf : ∀ lo, r.leaf.Between lo here → leaf.Between lo later) :
    Ready { r with leaf := leaf } above later := by
  obtain ⟨hfree, lo, mid, hclear, habove, hbetween⟩ := h
  have hempty : above = [] := hfree.resolve_right hthere
  exact ⟨Or.inl hempty, lo, mid, hclear, habove, hleaf mid hbetween⟩

theorem Ready.addParagraph (h : r.Ready above here) : (r.addParagraph above).Sound here := by
  obtain ⟨-, lo, mid, hclear, habove, hleaf⟩ := h
  refine ⟨mid, addParagraph_clear hclear habove, ?_⟩
  rwa [addParagraph_leaf]

/-- Closing the leaf leaves the lines of the paragraph for later. -/
theorem Ready.closeLeaf (h : r.Ready above here) :
    ∃ lo, (r.closeLeaf here).Idle lo ∧ Within lo here (above.map ParagraphLine.ends) := by
  have hsound := h.sound
  obtain ⟨hfree, lo, mid, hclear, habove, hleaf⟩ := h
  rcases hfree with rfl | hnothing
  · exact ⟨here, hsound.closeLeaf (Nat.le_refl here), within_nil.2 (Nat.le_refl here)⟩
  · have hclosed : r.closeLeaf here = r := by
      unfold Reader.closeLeaf
      rw [hnothing]
    have hlines := habove.mono (Nat.le_refl lo) hleaf.le
    rw [hclosed]
    exact ⟨lo, ⟨hnothing, hclear⟩, hlines⟩

end

/-! ## One line -/

section
variable {line : SourceLine} {p : Place} (hp : line.On p)
include hp

/-- The rest of a line is a range of its own. -/
theorem rest_within : Within p.offset line.stop [(p.offset, line.stop)] :=
  ⟨Nat.le_refl p.offset, hp.le_stop, Nat.le_refl line.stop⟩

theorem addBlank_sound (h : r.Sound p.offset) :
    (r.addBlank ⟨p.offset, line.stop⟩).Sound line.stop := by
  have hstop := hp.le_stop
  unfold addBlank
  split
  next start codeStop hleaf =>
    -- The blank line may still turn out to stand between two chunks of the code.
    obtain ⟨lo, hclear, hbetween⟩ := h
    rw [hleaf] at hbetween
    obtain ⟨hlo, hforward, hhi⟩ := hbetween
    have hlonger : start ≤ line.stop := by omega
    exact ⟨lo, hclear, hlo, hlonger, Nat.le_refl line.stop⟩
  next =>
    extract_lets next
    have hidle : next.Idle line.stop := (h.closeLeaf (Nat.le_refl p.offset)).add (rest_within hp)
    have hsound : next.Sound line.stop := hidle.sound (Nat.le_refl line.stop)
    -- Whether the item ends here does not change what has been added.
    split
    · exact hsound
    · exact hsound

theorem takeLine_sound (h : r.Sound p.offset) : (r.takeLine line p).Sound line.stop := by
  have hstop := hp.le_stop
  obtain ⟨lo, hclear, hleaf⟩ := h
  unfold takeLine
  split
  next start codeStop paused hindented =>
    rw [hindented] at hleaf
    obtain ⟨hlo, hforward, hhi⟩ := hleaf
    have hlonger : start ≤ line.stop := by omega
    exact ⟨lo, hclear, hlo, hlonger, Nat.le_refl line.stop⟩
  next mark length info start body ended hfenced =>
    rw [hfenced] at hleaf
    obtain ⟨hlo, hhi⟩ := hleaf
    have hlonger : start ≤ line.stop := by omega
    extract_lets bodyStart
    split
    · exact ⟨lo, hclear, hlo, hlonger⟩
    · exact ⟨lo, hclear, hlo, hlonger⟩
  next => exact ⟨lo, hclear, hleaf.mono (Nat.le_refl lo) hstop⟩
  next => exact ⟨lo, hclear, hleaf.mono (Nat.le_refl lo) hstop⟩

/-- Where indented code begins or goes on: at the start of the code that is paused, or at
    the place. -/
theorem indented_sound (h : r.Sound p.offset) :
    Sound { r with
      leaf := .indented (match r.leaf with | .indented start _ true => start | _ => p.offset)
        p.offset false } line.stop := by
  obtain ⟨lo, hclear, hleaf⟩ := h
  refine ⟨lo, hclear, ?_⟩
  split
  next start codeStop hindented =>
    rw [hindented] at hleaf
    obtain ⟨hlo, hforward, hhi⟩ := hleaf
    have hstart : start ≤ p.offset := by omega
    exact ⟨hlo, hstart, hp.le_stop⟩
  next => exact ⟨hleaf.le, Nat.le_refl p.offset, hp.le_stop⟩

end

variable {line : SourceLine}

/-- What begins at a place takes up the rest of the line. -/
theorem openAt_sound (next? : Option SourceLine) (hline : '\n' ∉ line.text) (fuel : Nat)
    {p : Place} {above : List ParagraphLine} (hp : line.On p) (h : r.Ready above p.offset) :
    (openAt line next? fuel above p r).Sound line.stop := by
  have hstop := hp.le_stop
  induction fuel generalizing above p r with
  | zero => exact h.sound.mono hstop
  | succ fuel ih =>
    unfold openAt
    extract_lets q range start grown closed text opened
    have hq : p.Reaches q := Place.reaches_skipBlanks p
    split
    · have hindented := indented_sound hp h.addParagraph
      rw [addParagraph_leaf] at hindented
      exact hindented
    split
    · exact addBlank_sound hp h.addParagraph
    obtain ⟨lo, hclosed, habove⟩ := h.closeLeaf
    have hidle : opened.Idle p.offset := hclosed.addParagraph habove
    -- A container goes on with the rest of the line, whatever stands there.
    have hcontainer : ∀ kind after, q.Reaches after →
        (openAt line next? fuel [] after
          { opened with stack := ⟨kind, p.offset, []⟩ :: opened.stack }).Sound line.stop := by
      intro kind after hafter
      have hreach : p.Reaches after := hq.trans hafter
      have hpushed := (hidle.push kind).sound hreach.offset_le
      exact ih (hp.reaches hreach) hpushed.ready (hp.reaches hreach).le_stop
    cases hopening : Opening.at? (!above.isEmpty) true q with
    | none =>
      -- The line begins a table or a paragraph, unless nothing is left of it.
      dsimp only
      split
      · exact hidle.sound hstop
      split
      · exact hidle.openLeaf (.table p.offset false) _ ⟨Nat.le_refl p.offset, hstop⟩
      · refine hidle.openLeaf (.paragraph [⟨p.offset, line.stop, p.rest⟩]) _ ⟨?_, ?_⟩
        · exact rest_within hp
        · exact List.forall_mem_singleton.2 (hp.not_mem_rest hline)
    | some opening =>
      have hfits := Opening.at?_fits hopening
      cases opening with
      | underline level =>
        -- The heading begins with the paragraph above and ends with the line.
        have hunderlines : (!above.isEmpty) = true := hfits
        have hne : above ≠ [] := by simpa using hunderlines
        obtain ⟨hlo, hforward, hhi⟩ := within_singleton.1 (rangeOf_within hne habove)
        have htext : text.start ≤ line.stop := (hforward.trans hhi).trans hstop
        have hheading : Within lo line.stop [(text.start, line.stop)] :=
          ⟨hlo, htext, Nat.le_refl line.stop⟩
        exact (hclosed.add hheading).sound (Nat.le_refl line.stop)
      | thematicBreak => exact (hidle.add (rest_within hp)).sound (Nat.le_refl line.stop)
      | heading level after => exact (hidle.add (rest_within hp)).sound (Nat.le_refl line.stop)
      | quote after => exact hcontainer .quote after hfits
      | item bullet width weak after => exact hcontainer (.item bullet width) after hfits
      | fence mark length info =>
        exact hidle.openLeaf (.fenced mark length _ p.offset none false) _
          ⟨Nat.le_refl p.offset, hstop⟩
      | html kind rest =>
        exact hidle.openLeaf (.html kind p.offset) _ ⟨Nat.le_refl p.offset, hstop⟩

/-- Reading on at a place pauses indented code and closes the other leaves that want every
    line. The containers stay. -/
theorem pause_ready {above : List ParagraphLine} {here reached there : Nat}
    (h : r.Ready above here) (hreached : here ≤ reached) (hthere : reached ≤ there) :
    let paused := match r.leaf with
      | .indented start stop true => { r with leaf := .indented start (max stop reached) true }
      | .indented start _ false => { r with leaf := .indented start there true }
      | .nothing | .table .. | .paragraph _ => r
      | .fenced .. | .html .. => r.closeLeaf reached
    paused.Ready above there ∧ r.Grows paused := by
  have hlater : here ≤ there := by omega
  dsimp only
  split
  next start stop hleaf =>
    refine ⟨h.replaceLeaf (by simp [hleaf]) fun lo hbetween => ?_, ⟨rfl, fun _ => rfl⟩⟩
    rw [hleaf] at hbetween
    obtain ⟨hlo, hforward, hhi⟩ := hbetween
    have hlonger : start ≤ max stop reached := by omega
    have hlast : max stop reached ≤ there := by omega
    exact ⟨hlo, hlonger, hlast⟩
  next start stop hleaf =>
    refine ⟨h.replaceLeaf (by simp [hleaf]) fun lo hbetween => ?_, ⟨rfl, fun _ => rfl⟩⟩
    rw [hleaf] at hbetween
    obtain ⟨hlo, hforward, hhi⟩ := hbetween
    have hlonger : start ≤ there := by omega
    exact ⟨hlo, hlonger, Nat.le_refl there⟩
  next => exact ⟨h.mono hlater, Grows.refl r⟩
  next => exact ⟨h.mono hlater, Grows.refl r⟩
  next => exact ⟨h.mono hlater, Grows.refl r⟩
  all_goals
    next hleaf =>
      obtain rfl : above = [] := h.1.resolve_right (by simp [hleaf])
      have hidle := h.sound.closeLeaf hreached
      exact ⟨(hidle.sound hthere).ready, closeLeaf_grows r reached⟩

/-- A line that goes on with no paragraph is taken in order, wherever it leaves the
    containers. -/
theorem takeAfresh_sound {above : List ParagraphLine} {here : Nat} (next? : Option SourceLine)
    (hline : '\n' ∉ line.text) (hle : here ≤ line.start) (h : r.Ready above here) :
    (r.takeAfresh above line next?).Sound line.stop := by
  unfold takeAfresh
  extract_lets containers frames held base
  have hp : line.On (continueFrames line.place held).2 := continueFrames_reaches _ _
  generalize continueFrames line.place held = continued at hp ⊢
  obtain ⟨n, p⟩ := continued
  dsimp -zeta only at hp ⊢
  have hstart := hp.start_le
  have hbase : base.Ready above here := h
  split
  · exact takeLine_sound hp (h.sound.mono (hle.trans hstart))
  extract_lets reached paused lost closed
  have hreached : line.start ≤ reached ∧ reached ≤ p.offset := by
    show line.start ≤ (if n == 0 then line.start else p.offset) ∧
      (if n == 0 then line.start else p.offset) ≤ p.offset
    split <;> omega
  obtain ⟨hpaused, hgrows⟩ : paused.Ready above p.offset ∧ base.Grows paused :=
    pause_ready hbase (hle.trans hreached.1) hreached.2
  split
  · exact openAt_sound next? hline _ hp hpaused
  next hlost =>
    -- There are containers, and the lines above and the leaf stand in them. So the top is
    -- as before, and the containers that are lost close where the line starts.
    have hinside : base.starts ≠ [] := by
      intro hnil
      have hstack : r.stack = [] := List.map_eq_nil_iff.1 hnil
      exact hlost (by simp [lost, containers, hstack])
    have hclosed : base.Grows closed :=
      (hgrows.trans (addParagraph_grows paused above)).trans (closeLeaf_grows _ line.start)
    obtain ⟨-, lo, mid, hclear, habove, hleaf⟩ := hbase
    have hmid := habove.le
    have hhere := hleaf.le
    have hbefore : lo ≤ line.start := by omega
    have htop := (hclosed.clear hinside hclear).mono hbefore
    have hidle : (closeContainers line.start lost closed).Idle line.start := by
      refine ⟨?_, closeContainers_clear lost htop⟩
      rw [closeContainers_leaf, closeLeaf_leaf]
    exact openAt_sound next? hline _ hp (hidle.sound hstart).ready

/-- What has been read stays in order with one more line. -/
theorem take_sound {here : Nat} (next? : Option SourceLine) (hline : '\n' ∉ line.text)
    (hle : here ≤ line.start) (h : r.Sound here) : (r.take line next?).Sound line.stop := by
  unfold take
  extract_lets frames
  have hp : line.On (continueFrames line.place frames).2 := continueFrames_reaches _ _
  generalize continueFrames line.place frames = continued at hp ⊢
  obtain ⟨n, p⟩ := continued
  dsimp -zeta only at hp ⊢
  extract_lets inside
  have hstart := hp.start_le
  have hstop := hp.le_stop
  split
  next lines hparagraph =>
    obtain ⟨lo, hclear, hbetween⟩ := h
    rw [hparagraph] at hbetween
    obtain ⟨hlines, hunbroken⟩ := hbetween
    split
    · -- The definitions are added, and the lines left wait for what the line begins.
      have hcleared : Clear { r with leaf := .nothing } lo := hclear
      obtain ⟨mid, hadded, hleft⟩ := addDefinitions_clear hcleared hlines hunbroken
      have hnothing := addDefinitions_leaf { r with leaf := .nothing } lines
      refine takeAfresh_sound next? hline hle ⟨Or.inr hnothing, mid, here, hadded, hleft, ?_⟩
      rw [hnothing]
      exact Nat.le_refl here
    · have hnext : Within here line.stop [(p.offset, line.stop)] :=
        (rest_within hp).mono (hle.trans hstart) (Nat.le_refl line.stop)
      refine ⟨lo, hclear, ?_, List.forall_mem_cons.2 ⟨hp.not_mem_rest hline, hunbroken⟩⟩
      rw [List.reverse_cons, List.map_append]
      exact within_append.2 ⟨here, hlines, hnext⟩
  next start delimited htable =>
    split
    · obtain ⟨lo, hclear, hbetween⟩ := h
      rw [htable] at hbetween
      obtain ⟨hlo, hhi⟩ := hbetween
      have hlonger : start ≤ line.stop := by omega
      exact ⟨lo, hclear, hlo, hlonger⟩
    · have hclosed := (h.closeLeaf hle).sound (Nat.le_refl line.start)
      exact takeAfresh_sound next? hline (Nat.le_refl line.start) hclosed.ready
  next => exact takeAfresh_sound next? hline hle h.ready

/-! ## Whole sources -/

/-- The induction is on the lines that are left; each starts where the one before it
    stops, or later. -/
theorem takeAll_sound {here : Nat} {lines : List SourceLine}
    (hunbroken : ∀ line ∈ lines, '\n' ∉ line.text)
    (hlines : Within here hi (lines.map SourceLine.ends)) (h : r.Sound here) :
    (takeAll r lines).Sound hi := by
  induction lines generalizing r here with
  | nil => exact h.mono hlines
  | cons line lines ih =>
    rw [List.forall_mem_cons] at hunbroken
    obtain ⟨hstart, -, hrest⟩ := hlines
    have htaken := take_sound lines.head? hunbroken.1 hstart h
    exact ih hunbroken.2 hrest htaken

/-- What is still open at the end is closed in order. -/
theorem finish_within {stop : Nat} (h : r.Sound hi) (hstop : hi ≤ stop) :
    Within 0 stop ((r.finish stop).map Node.ends) := by
  have hclosed := closeContainers_clear r.stack.length (h.closeLeaf hstop).2
  have hempty : (closeContainers stop r.stack.length (r.closeLeaf stop)).starts = [] := by
    rw [closeContainers_starts, (closeLeaf_grows r stop).starts, List.drop_eq_nil_iff]
    exact Nat.le_of_eq (List.length_map _)
  unfold Clear at hclosed
  rwa [hempty] at hclosed

end Reader

/-- **The nodes of a source are in order, inside of the source.** -/
theorem nodes_within (source : List Char) :
    Within 0 (Text.byteLength source) ((nodes source).map Node.ends) := by
  have hstart : Reader.Sound {} 0 := ⟨0, Nat.le_refl 0, Nat.le_refl 0⟩
  have hread := Reader.takeAll_sound (bodyLines_unbroken source) (bodyLines_within source) hstart
  exact Reader.finish_within hread (Nat.le_refl _)

end Rubric.Markdown
