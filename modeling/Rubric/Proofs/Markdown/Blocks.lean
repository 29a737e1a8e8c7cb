/-
  Rubric.Proofs.Markdown.Blocks

  The blocks of some nodes are where the nodes are.

  A node makes at most one block, which spans its trimmed text, and neighbouring
  list items make one block together. So blocks of nodes that are in order are in
  order themselves, and what nodes pass on to their blocks holds of all blocks.
-/
import Rubric.Proofs.Markdown.Trimmed

namespace Rubric.Markdown

/-- The offsets where a stretch starts and ends. -/
def Stretch.ends (s : Stretch) : Nat × Nat :=
  (s.start, s.stop)

namespace Node

/-- The offsets where a node starts and ends. -/
def ends (node : Node) : Nat × Nat :=
  node.range.ends

/-- A block of a single node is no list and spans the trimmed range of the node. -/
theorem of_block?_eq_some {source : List Char} {node : Node} {b : Block}
    (h : node.block? source = some b) :
    (∀ l, b ≠ .list l) ∧ b.position = node.range.span source := by
  cases node with
  | item bullet children range => simp [block?] at h
  | blank range => simp [block?] at h
  | other range =>
    unfold block? at h
    simp only at h
    split at h
    · obtain rfl := Option.some.inj h
      exact ⟨nofun, rfl⟩
    · simp at h
  | _ =>
    obtain rfl := Option.some.inj h
    exact ⟨nofun, rfl⟩

/-- A block of a node lies in the node. -/
theorem block?_within (source : List Char) {lo hi : Nat} {node : Node}
    (h : Within lo hi [node.ends]) :
    Within lo hi ((node.block? source).toList.map Block.ends) := by
  cases hblock : node.block? source with
  | none => exact h.le
  | some b =>
    obtain ⟨hlo, hforward, hhi⟩ := within_singleton.1 h
    have hspan : Within lo hi [(node.range.span source).ends] :=
      (Span.trimmed_within source hforward).mono hlo hhi
    rw [← (of_block?_eq_some hblock).2] at hspan
    exact hspan

/-- Items in a row can be taken for one range, from the first of them to the last. -/
theorem items_within {lo hi : Nat} {first : Node} {others : List Node}
    (h : Within lo hi ((first :: others).map ends)) :
    Within lo hi [(first.range.start, (others.getLast?.getD first).range.stop)] := by
  have hlast : lastEnd first.ends.2 (others.map ends)
      = (others.getLast?.getD first).range.stop := by
    unfold lastEnd
    rw [List.getLast?_map]
    cases others.getLast? <;> rfl
  rw [← hlast]
  exact h.hull

/-- The list of some items reaches from the first of them to the last. -/
theorem listing_within (source : List Char) (bullet : Bullet) {lo hi : Nat} {first : Node}
    {others : List Node} (h : Within lo hi ((first :: others).map ends)) :
    Within lo hi [(Block.list (listing source bullet first others)).ends] := by
  obtain ⟨hlo, hforward, hhi⟩ := within_singleton.1 (items_within h)
  exact (Span.trimmed_within source hforward).mono hlo hhi

/-- The nodes of a list that may go on. -/
def groupNodes (group? : Option (Bullet × Node × List Node)) : List Node :=
  match group? with
  | none => []
  | some (_, first, others) => first :: others.reverse

/-- How blocks come from nodes: a node makes at most one block by itself, and list items
    of one mark that follow one another make one list together. -/
inductive Make (source : List Char) : List Node → List Block → Prop
  | nil : Make source [] []
  | single {node : Node} {nodes : List Node} {bs : List Block} : Make source nodes bs →
      Make source (node :: nodes) ((node.block? source).toList ++ bs)
  | list {bullet : Bullet} {first : Node} {others nodes : List Node} {bs : List Block} :
      (∀ node ∈ first :: others, node.bullet? = some bullet) → Make source nodes bs →
      Make source (first :: others ++ nodes) (.list (listing source bullet first others) :: bs)

/-- The nodes of a list that may go on are items of its mark. -/
def IsGroup : Option (Bullet × Node × List Node) → Prop
  | none => True
  | some (bullet, first, others) =>
    ∀ node ∈ first :: others.reverse, node.bullet? = some bullet

theorem isGroup_singleton {node : Node} {b : Bullet} (hb : node.bullet? = some b) :
    IsGroup (some (b, node, [])) :=
  List.forall_mem_singleton.2 hb

theorem IsGroup.cons {bullet : Bullet} {first node : Node} {others : List Node}
    (h : IsGroup (some (bullet, first, others))) (hnode : node.bullet? = some bullet) :
    IsGroup (some (bullet, first, node :: others)) := by
  rw [IsGroup, List.reverse_cons, ← List.cons_append]
  exact List.forall_mem_append.2 ⟨h, List.forall_mem_singleton.2 hnode⟩

theorem make_of_isGroup (source : List Char) {group? : Option (Bullet × Node × List Node)}
    (hgroup : IsGroup group?) (nodes : List Node) :
    Make source (groupNodes group? ++ nodes) (blocks source group? nodes) := by
  induction nodes generalizing group? with
  | nil =>
    cases group? with
    | none => exact .nil
    | some group => exact .list hgroup .nil
  | cons node nodes ih =>
    have hafter : Make source (node :: nodes)
        ((node.block? source).toList ++ blocks source none nodes) :=
      .single (ih (show IsGroup none from trivial))
    unfold blocks
    split
    next bullet first others b hb =>
      -- An item goes on with the list before it only if it has the same bullet.
      split
      next hsame =>
        rw [beq_iff_eq] at hsame
        have hmore := ih (hgroup.cons (hsame ▸ hb))
        rwa [groupNodes, List.reverse_cons, ← List.cons_append, List.append_assoc] at hmore
      · exact .list hgroup (ih (isGroup_singleton hb))
    next bullet first others hb => exact .list hgroup hafter
    next b hb => exact ih (isGroup_singleton hb)
    next hb => exact hafter

theorem blocks_make (source : List Char) (nodes : List Node) :
    Make source nodes (blocks source none nodes) :=
  make_of_isGroup source (show IsGroup none from trivial) nodes

/-- Blocks of nodes between two offsets that are in order are so themselves. -/
theorem Make.within {source : List Char} {lo hi : Nat} {nodes : List Node} {bs : List Block}
    (hmake : Make source nodes bs) (h : Within lo hi (nodes.map ends)) :
    Within lo hi (bs.map Block.ends) := by
  induction hmake generalizing lo with
  | nil => exact h
  | single _ ih =>
    rw [List.map_cons, ← List.singleton_append, within_append] at h
    obtain ⟨next, hnode, hrest⟩ := h
    rw [List.map_append, within_append]
    exact ⟨next, block?_within source hnode, ih hrest⟩
  | list _ _ ih =>
    rw [List.map_append, within_append] at h
    obtain ⟨next, hitems, hrest⟩ := h
    rw [List.map_cons, ← List.singleton_append, within_append]
    exact ⟨next, listing_within source _ hitems, ih hrest⟩

/-- What holds of the block of every node and of the list of any items holds of all the
    blocks that nodes make. -/
theorem Make.forall_mem {source : List Char} {p : Node → Prop} {q : Block → Prop}
    {nodes : List Node} {bs : List Block} (hmake : Make source nodes bs)
    (hblock : ∀ node, p node → ∀ b ∈ (node.block? source).toList, q b)
    (hlist : ∀ bullet first others,
      (∀ node ∈ first :: others, node.bullet? = some bullet ∧ p node) →
        q (.list (listing source bullet first others)))
    (h : ∀ node ∈ nodes, p node) : ∀ b ∈ bs, q b := by
  induction hmake with
  | nil => exact List.forall_mem_nil _
  | single _ ih =>
    obtain ⟨hnode, hrest⟩ := List.forall_mem_cons.1 h
    exact List.forall_mem_append.2 ⟨hblock _ hnode, ih hrest⟩
  | list hbullets _ ih =>
    obtain ⟨hitems, hrest⟩ := List.forall_mem_append.1 h
    exact List.forall_mem_cons.2
      ⟨hlist _ _ _ fun node hnode => ⟨hbullets node hnode, hitems node hnode⟩, ih hrest⟩

end Node

end Rubric.Markdown
