/-
  Rubric.Proofs.Markdown.Level

  Headings have six levels.

  The reader makes a node for a heading in two places only: behind one to six number
  signs, and over an underline of one of two kinds. Every other node that it adds is no
  heading, and what stands in a list item or a quote stays there.
-/
import Rubric.Markdown.Tree
import Mathlib.Logic.Basic

namespace Rubric.Markdown

/-! ## What begins at a place -/

/-- A heading that begins here has one of six levels. -/
def Opening.IsLevelled : Opening → Prop
  | .underline level | .heading level _ => 1 ≤ level ∧ level ≤ 6
  | _ => True

namespace Opening

variable {p : Place} {opening : Opening} {underlines inside : Bool}

theorem fence?_isLevelled {mark : Char} (h : fence? mark p = some opening) :
    opening.IsLevelled := by
  unfold fence? at h
  extract_lets n after at h
  split at h
  · obtain rfl := Option.some.inj h
    trivial
  · cases h

/-- There is at least the sign that the place begins with. -/
theorem heading?_isLevelled {rest : List Char} (hrest : p.rest = '#' :: rest)
    (h : heading? p = some opening) : opening.IsLevelled := by
  have hsign : 1 ≤ runLength '#' p := by
    rw [runLength, hrest, List.takeWhile_cons_of_pos (by decide), List.length_cons]
    omega
  unfold heading? at h
  extract_lets n after closed at h
  split at h
  · next hclosed =>
    obtain rfl := Option.some.inj h
    simp only [Bool.and_eq_true, decide_eq_true_eq] at hclosed
    exact ⟨hsign, hclosed.1.2⟩
  · cases h

theorem item?_isLevelled {bullet : Bullet} {digits indent : Nat} {weakMark : Bool}
    (h : item? bullet digits indent weakMark inside p = some opening) : opening.IsLevelled := by
  unfold item? at h
  extract_lets content isEmpty gap weak at h
  split at h
  · cases h
  split at h
  · obtain rfl := Option.some.inj h
    trivial
  · obtain rfl := Option.some.inj h
    trivial

theorem numbered?_isLevelled (h : numbered? inside p = some opening) : opening.IsLevelled := by
  unfold numbered? at h
  extract_lets digits n after at h
  split at h
  · cases h
  split at h
  · exact item?_isLevelled h
  · exact item?_isLevelled h
  · cases h

theorem star?_isLevelled (h : star? inside p = some opening) : opening.IsLevelled := by
  unfold star? at h
  split at h
  split at h
  · obtain rfl := Option.some.inj h
    trivial
  · exact item?_isLevelled h

theorem minus?_isLevelled (h : minus? underlines inside p = some opening) :
    opening.IsLevelled := by
  unfold minus? at h
  extract_lets unbroken at h
  split at h
  split at h
  · cases h
  split at h
  · obtain rfl := Option.some.inj h
    exact ⟨by decide, by decide⟩
  split at h
  · obtain rfl := Option.some.inj h
    trivial
  · exact item?_isLevelled h

theorem at?_isLevelled (h : at? underlines inside p = some opening) : opening.IsLevelled := by
  unfold at? at h
  split at h
  · cases h
  next c cs hrest =>
  -- The characters are taken in the order they are tried, as in `at?_fits`.
  rcases ite_eq_iff.1 h with ⟨-, h⟩ | ⟨-, h⟩
  · exact fence?_isLevelled h
  rcases ite_eq_iff.1 h with ⟨-, h⟩ | ⟨-, h⟩
  · exact star?_isLevelled h
  rcases ite_eq_iff.1 h with ⟨-, h⟩ | ⟨-, h⟩
  · rcases ite_eq_iff.1 h with ⟨-, h⟩ | ⟨-, h⟩
    · obtain rfl := Option.some.inj h
      trivial
    · cases h
  rcases ite_eq_iff.1 h with ⟨-, h⟩ | ⟨-, h⟩
  · obtain rfl := Option.some.inj h
    trivial
  rcases ite_eq_iff.1 h with ⟨hsign, h⟩ | ⟨-, h⟩
  · exact heading?_isLevelled (eq_of_beq hsign ▸ hrest) h
  rcases ite_eq_iff.1 h with ⟨-, h⟩ | ⟨-, h⟩
  · rcases ite_eq_iff.1 h with ⟨-, h⟩ | ⟨-, h⟩
    · obtain rfl := Option.some.inj h
      exact ⟨by decide, by decide⟩
    · cases h
  rcases ite_eq_iff.1 h with ⟨-, h⟩ | ⟨-, h⟩
  · rcases ite_eq_iff.1 h with ⟨-, h⟩ | ⟨-, h⟩
    · exact item?_isLevelled h
    · cases h
  rcases ite_eq_iff.1 h with ⟨-, h⟩ | ⟨-, h⟩
  · exact numbered?_isLevelled h
  rcases ite_eq_iff.1 h with ⟨-, h⟩ | ⟨-, h⟩
  · exact minus?_isLevelled h
  rcases ite_eq_iff.1 h with ⟨-, h⟩ | ⟨-, h⟩
  · obtain ⟨found, -, rfl⟩ := Option.map_eq_some_iff.1 h
    trivial
  · cases h

end Opening

/-! ## Nodes -/

/-- A node that is a heading has one of six levels. -/
def Node.IsLevelled : Node → Prop
  | .heading _ level _ _ => 1 ≤ level ∧ level ≤ 6
  | _ => True

namespace Reader

/-- The headings at the top have one of six levels. Nodes in containers do not get there. -/
def IsLevelled (r : Reader) : Prop :=
  ∀ node ∈ r.done, node.IsLevelled

variable {r : Reader}

theorem add_isLevelled {node : Node} (h : r.IsLevelled) (hnode : node.IsLevelled) :
    (r.add node).IsLevelled := by
  unfold add
  split
  · exact h
  · exact List.forall_mem_cons.2 ⟨hnode, h⟩

theorem foldl_add_isLevelled (h : r.IsLevelled) (ranges : List Stretch) :
    (ranges.foldl (fun r range => r.add (.other range)) r).IsLevelled := by
  induction ranges generalizing r with
  | nil => exact h
  | cons range ranges ih => exact ih (add_isLevelled h trivial)

theorem closeContainer_isLevelled (h : r.IsLevelled) (stop : Nat) :
    (r.closeContainer stop).IsLevelled := by
  unfold closeContainer
  split
  · exact h
  next c cs heq =>
    apply add_isLevelled
    · exact h
    · cases c.kind with
      | quote => trivial
      | item bullet width => trivial

theorem closeContainers_isLevelled (stop n : Nat) (h : r.IsLevelled) :
    (closeContainers stop n r).IsLevelled := by
  induction n generalizing r with
  | zero => exact h
  | succ n ih => exact ih (closeContainer_isLevelled h stop)

theorem addParagraph_isLevelled (h : r.IsLevelled) (lines : List ParagraphLine) :
    (r.addParagraph lines).IsLevelled := by
  unfold addParagraph
  split
  · exact h
  · exact add_isLevelled h trivial

theorem closeLeaf_isLevelled (h : r.IsLevelled) (stop : Nat) :
    (r.closeLeaf stop).IsLevelled := by
  have hcleared : IsLevelled { r with leaf := .nothing } := h
  unfold closeLeaf
  extract_lets cleared
  split
  next => exact h
  next lines _ => exact addParagraph_isLevelled (foldl_add_isLevelled hcleared _) _
  all_goals exact add_isLevelled hcleared trivial

theorem addBlank_isLevelled (h : r.IsLevelled) (range : Stretch) :
    (r.addBlank range).IsLevelled := by
  unfold addBlank
  split
  next => exact h
  next =>
    extract_lets next
    have hnext : next.IsLevelled := add_isLevelled (closeLeaf_isLevelled h range.start) trivial
    split
    · exact hnext
    · exact hnext

theorem openAt_isLevelled (line : SourceLine) (next? : Option SourceLine) (fuel : Nat)
    (above : List ParagraphLine) (p : Place) (h : r.IsLevelled) :
    (openAt line next? fuel above p r).IsLevelled := by
  induction fuel generalizing above p r with
  | zero => exact h
  | succ fuel ih =>
    unfold openAt
    extract_lets q range start grown closed text opened
    have hgrown : grown.IsLevelled := addParagraph_isLevelled h above
    split
    · exact hgrown
    split
    · exact addBlank_isLevelled hgrown range
    have hclosed : closed.IsLevelled := closeLeaf_isLevelled h p.offset
    have hopened : opened.IsLevelled := addParagraph_isLevelled hclosed above
    cases hopening : Opening.at? (!above.isEmpty) true q with
    | none =>
      dsimp only
      split
      · exact hopened
      split
      · exact hopened
      · exact hopened
    | some opening =>
      have hlevel := Opening.at?_isLevelled hopening
      cases opening with
      | underline level => exact add_isLevelled hclosed hlevel
      | thematicBreak => exact add_isLevelled hopened trivial
      | heading level after => exact add_isLevelled hopened hlevel
      | quote after => exact ih [] after hopened
      | item bullet width weak after => exact ih [] after hopened
      | fence mark length info => exact hopened
      | html kind rest => exact hopened

theorem takeLine_isLevelled (h : r.IsLevelled) (line : SourceLine) (p : Place) :
    (r.takeLine line p).IsLevelled := by
  unfold takeLine
  split
  next => exact h
  next =>
    extract_lets bodyStart
    split
    · exact h
    · exact h
  next => exact h
  next => exact h

theorem pause_isLevelled (h : r.IsLevelled) (reached there : Nat) :
    IsLevelled (match r.leaf with
      | .indented start stop true => { r with leaf := .indented start (max stop reached) true }
      | .indented start _ false => { r with leaf := .indented start there true }
      | .nothing | .table .. | .paragraph _ => r
      | .fenced .. | .html .. => r.closeLeaf reached) := by
  split
  case h_6 | h_7 => exact closeLeaf_isLevelled h reached
  all_goals exact h

theorem takeAfresh_isLevelled (h : r.IsLevelled) (above : List ParagraphLine)
    (line : SourceLine) (next? : Option SourceLine) :
    (r.takeAfresh above line next?).IsLevelled := by
  unfold takeAfresh
  extract_lets containers frames held base
  generalize continueFrames line.place held = continued
  obtain ⟨n, p⟩ := continued
  dsimp -zeta only
  have hbase : base.IsLevelled := h
  split
  · exact takeLine_isLevelled hbase line p
  extract_lets reached paused lost closed
  have hpaused : paused.IsLevelled := pause_isLevelled hbase reached p.offset
  split
  · exact openAt_isLevelled line next? _ above p hpaused
  · have hclosed : closed.IsLevelled :=
      closeLeaf_isLevelled (addParagraph_isLevelled hpaused above) line.start
    exact openAt_isLevelled line next? _ [] p (closeContainers_isLevelled _ _ hclosed)

theorem take_isLevelled (h : r.IsLevelled) (line : SourceLine) (next? : Option SourceLine) :
    (r.take line next?).IsLevelled := by
  unfold take
  extract_lets frames
  generalize continueFrames line.place frames = continued
  obtain ⟨n, p⟩ := continued
  dsimp -zeta only
  extract_lets inside
  split
  next lines _ =>
    split
    · have hcleared : IsLevelled { r with leaf := .nothing } := h
      exact takeAfresh_isLevelled (foldl_add_isLevelled hcleared _) _ line next?
    · exact h
  next start delimited _ =>
    split
    · exact h
    · exact takeAfresh_isLevelled (closeLeaf_isLevelled h line.start) [] line next?
  next => exact takeAfresh_isLevelled h [] line next?

theorem takeAll_isLevelled (h : r.IsLevelled) (lines : List SourceLine) :
    (takeAll r lines).IsLevelled := by
  induction lines generalizing r with
  | nil => exact h
  | cons line lines ih => exact ih (take_isLevelled h line lines.head?)

end Reader

/-- **The headings of a source have one of six levels.** -/
theorem nodes_areLevelled (source : List Char) : ∀ node ∈ nodes source, node.IsLevelled := by
  have hstart : Reader.IsLevelled {} := List.forall_mem_nil _
  have hread := Reader.takeAll_isLevelled hstart (bodyLines source)
  have hclosed := Reader.closeLeaf_isLevelled hread (Text.byteLength source)
  intro node hnode
  exact Reader.closeContainers_isLevelled _ _ hclosed node (List.mem_reverse.1 hnode)

end Rubric.Markdown
