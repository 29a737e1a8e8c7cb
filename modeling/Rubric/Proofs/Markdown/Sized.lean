/-
  Rubric.Proofs.Markdown.Sized

  Outlines of Markdown sources are small.

  A place of a source has no more lines, columns and bytes before it than the source
  has bytes, and headings have six levels. So all numbers in the outline of a source
  fit where they are kept, if those of the source itself do, and its sections are
  nested at most six deep.
-/
import Rubric.Proofs.Markdown.Boundary
import Rubric.Proofs.Markdown.Exact
import Rubric.Proofs.Markdown.Level
import Rubric.Proofs.Outline.Sized

namespace Rubric

/-! ## Places -/

section
variable {source : List Char} (hsource : Text.byteLength source < 2 ^ 63)
include hsource

/-- The coordinates of a place of a text that fits into memory fit into 64 bits. -/
theorem Point.IsAt.isSized {p : Point} (h : p.IsAt source) : p.IsSized := by
  have hoffset := h.isBehind.boundary.le_byteLength
  obtain ⟨front, line, hprefix, -, -, -, hline, hcolumn⟩ := h.isBehind
  have hlines : (front ++ line).count '\n' ≤ source.length :=
    List.count_le_length.trans hprefix.length_le
  have hcolumns : line.length ≤ source.length :=
    (List.suffix_append front line).length_le.trans hprefix.length_le
  have hlength : source.length ≤ Text.byteLength source := Text.length_le_byteLength source
  constructor <;> omega

theorem Span.IsAt.isSized {span : Span} (h : span.IsAt source) : span.IsSized :=
  ⟨h.1.isSized hsource, h.2.isSized hsource⟩

end

/-! ## Blocks -/

/-- A block that is a heading has one of six levels. -/
def Block.IsLevelled (block : Block) : Prop :=
  ∀ h ∈ block.heading?, 1 ≤ h.level ∧ h.level ≤ 6

namespace Markdown

namespace Node

theorem block?_isLevelled {source : List Char} {node : Node} (h : node.IsLevelled) :
    ∀ b ∈ (node.block? source).toList, b.IsLevelled := by
  intro b hb
  rw [Option.mem_toList] at hb
  cases node with
  | item bullet children range => simp [block?] at hb
  | blank range => simp [block?] at hb
  | heading form level text range =>
    obtain rfl := Option.some.inj hb
    rintro _ ⟨⟩
    exact h
  | other range =>
    unfold block? at hb
    simp only at hb
    split at hb
    · obtain rfl := Option.some.inj hb
      rintro _ ⟨⟩
    · simp at hb
  | _ =>
    obtain rfl := Option.some.inj hb
    rintro _ ⟨⟩

theorem blocks_areLevelled {source : List Char} {nodes : List Node}
    (h : ∀ node ∈ nodes, node.IsLevelled) :
    ∀ b ∈ blocks source none nodes, b.IsLevelled :=
  (blocks_make source nodes).forall_mem (fun _ hnode => block?_isLevelled hnode)
    (fun _ _ _ _ => nofun) h

section
variable {source : List Char} (hsource : Text.byteLength source < 2 ^ 63)
include hsource

theorem block?_isSized {node : Node} (hstart : Text.Boundary source node.range.start)
    (hlevel : node.IsLevelled) : ∀ b ∈ (node.block? source).toList, b.IsSized := by
  intro b hb
  have hposition : b.position.IsSized := (block?_isAt hstart b hb).isSized hsource
  have hlevelled : b.IsLevelled := block?_isLevelled hlevel b hb
  cases b with
  | heading h => exact ⟨Nat.lt_of_le_of_lt (hlevelled h rfl).2 (by decide), hposition⟩
  | list l => exact absurd rfl ((of_block?_eq_some (Option.mem_toList.1 hb)).1 l)
  | _ => exact hposition

theorem listing_isSized (bullet : Bullet) {first : Node} {others : List Node}
    (h : ∀ node ∈ first :: others, Text.Boundary source node.range.start) :
    (listing source bullet first others).IsSized := by
  constructor
  · intro item hitem
    obtain ⟨node, hnode, rfl⟩ := List.mem_map.1 hitem
    exact (Span.trimmed_isAt (h node hnode) _).isSized hsource
  · exact (Span.trimmed_isAt (h first List.mem_cons_self) _).isSized hsource

theorem blocks_areSized {nodes : List Node}
    (hstart : ∀ node ∈ nodes, Text.Boundary source node.range.start)
    (hlevel : ∀ node ∈ nodes, node.IsLevelled) : ∀ b ∈ blocks source none nodes, b.IsSized := by
  have hnodes : ∀ node ∈ nodes, Text.Boundary source node.range.start ∧ node.IsLevelled :=
    fun node hnode => ⟨hstart node hnode, hlevel node hnode⟩
  refine (blocks_make source nodes).forall_mem (fun _ h => block?_isSized hsource h.1 h.2) ?_
    hnodes
  intro bullet first others h
  exact listing_isSized hsource bullet fun node hnode => (h node hnode).2.1

end

end Node

/-! ## Whole sources -/

/-- All numbers in the outline of a source fit. -/
theorem outline_isSized {source : String} (hsource : Text.byteLength source.toList < 2 ^ 63) :
    (outline source).IsSized :=
  Fold.document_isSized source (Node.blocks_areSized hsource (nodes_begin source.toList)
    (nodes_areLevelled source.toList))

/-- **The outline of a source is at most six levels deep.** -/
theorem levelsOf_outline_le (source : String) : levelsOf (outline source).sections ≤ 6 := by
  apply Fold.levelsOf_document_le
  intro h hh
  obtain ⟨block, hblock, hheading⟩ := List.mem_filterMap.1 hh
  exact Node.blocks_areLevelled (nodes_areLevelled source.toList) block hblock h hheading

end Markdown

end Rubric
