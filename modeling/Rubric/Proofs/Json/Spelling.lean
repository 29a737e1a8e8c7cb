/-
  Rubric.Proofs.Json.Spelling

  Texts that spell a value, and what is read from them.

  A value is written as what it is made of, with any space between the parts. Whoever
  wrote it, such a text is the text of the value as a draft without mistakes, so that the
  value is read from it and nothing is left. Both writers make such texts: one puts in no
  space at all, the other a line for every item.
-/
import Rubric.Proofs.Json.Parsed

namespace Rubric.Json

/-! ## Texts that spell a value -/

mutual

/-- The characters spell a value, without space around it. -/
def Spells : Json → List Char → Prop
  | .number n, cs => IsExactNumber n ∧ cs = n.toText.toList
  | .array items, cs => ∃ inner, cs = '[' :: inner ∧ SpellsItems items inner
  | .object fields, cs => ∃ inner, cs = '\x7b' :: inner ∧ SpellsFields fields inner
  | v, cs => cs = compactChars v

/-- The characters spell the items of an array, and its closing bracket. -/
def SpellsItems : List Json → List Char → Prop
  | [], cs => ∃ gap, IsGap gap ∧ cs = gap ++ [']']
  | [x], cs => ∃ item, Padded (Spells x) item ∧ cs = item ++ [']']
  | x :: xs, cs =>
    ∃ item others, Padded (Spells x) item ∧ SpellsItems xs others ∧ cs = item ++ ',' :: others

/-- The characters spell the members of an object, and its closing brace. -/
def SpellsFields : List (String × Json) → List Char → Prop
  | [], cs => ∃ gap, IsGap gap ∧ cs = gap ++ ['\x7d']
  | [(name, x)], cs =>
    ∃ key item, Padded (· = quote name) key ∧ Padded (Spells x) item ∧
      cs = key ++ ':' :: (item ++ ['\x7d'])
  | (name, x) :: xs, cs =>
    ∃ key item others, Padded (· = quote name) key ∧ Padded (Spells x) item ∧
      SpellsFields xs others ∧ cs = key ++ ':' :: (item ++ ',' :: others)

end

mutual

/-- A text that spells a value is one of its texts as a draft. -/
theorem Spells.isText (v : Json) {cs : List Char} (h : Spells v cs) :
    (Draft.ofJson v).IsText cs := by
  cases v with
  | null => exact h
  | bool b => cases b <;> exact h
  | number n =>
    obtain ⟨hexact, rfl⟩ := h
    obtain ⟨numeral, htext, hnumber⟩ := exists_numeral_toText hexact
    exact ⟨numeral, htext, hnumber⟩
  | string s =>
    obtain rfl : cs = quote s := h
    exact isString_quote s
  | array items =>
    obtain ⟨inner, rfl, hinner⟩ := h
    exact ⟨inner, rfl, SpellsItems.areItems items hinner⟩
  | object fields =>
    obtain ⟨inner, rfl, hinner⟩ := h
    exact ⟨inner, rfl, SpellsFields.areMembers fields hinner⟩

theorem SpellsItems.areItems (items : List Json) {cs : List Char} (h : SpellsItems items cs) :
    Draft.AreItems (Draft.ofJsonItems items) cs := by
  cases items with
  | nil => exact h
  | cons x xs =>
    cases xs with
    | nil =>
      obtain ⟨item, hitem, rfl⟩ := h
      exact ⟨item, hitem.mono fun _ => Spells.isText x, rfl⟩
    | cons y ys =>
      obtain ⟨item, others, hitem, hothers, rfl⟩ := h
      exact Draft.areItems_cons (List.cons_ne_nil _ _) (hitem.mono fun _ => Spells.isText x)
        (SpellsItems.areItems (y :: ys) hothers)

theorem SpellsFields.areMembers (fields : List (String × Json)) {cs : List Char}
    (h : SpellsFields fields cs) : Draft.AreMembers (Draft.ofJsonFields fields) cs := by
  cases fields with
  | nil => exact h
  | cons member xs =>
    obtain ⟨name, x⟩ := member
    have hname : ∀ body, body = quote name → IsString (some name) body := by
      rintro _ rfl
      exact isString_quote name
    cases xs with
    | nil =>
      obtain ⟨key, item, hkey, hitem, rfl⟩ := h
      exact ⟨key, item, hkey.mono hname, hitem.mono fun _ => Spells.isText x, rfl⟩
    | cons other xs =>
      obtain ⟨name', y⟩ := other
      obtain ⟨key, item, others, hkey, hitem, hothers, rfl⟩ := h
      exact Draft.areMembers_cons (List.cons_ne_nil _ _) (hkey.mono hname)
        (hitem.mono fun _ => Spells.isText x) (SpellsFields.areMembers ((name', y) :: xs) hothers)

end

/-- **A text that spells a value is read as the value.** Whatever space stands between its
    parts and around it, nothing is wrong with the text and nothing is left of it. -/
theorem ofText_spells {v : Json} {text : String} (h : Padded (Spells v) text.toList) :
    Draft.ofText text = (Draft.ofJson v, none) :=
  (ofText_eq_iff.2 (h.mono fun _ => Spells.isText v)).1

/-! ## What the writers write -/

mutual

/-- The numbers of a value are whole numbers that are kept exactly. -/
def IsExact : Json → Prop
  | .number n => IsExactNumber n
  | .array items => AreExactItems items
  | .object fields => AreExactFields fields
  | _ => True

/-- The numbers of the items are kept exactly. -/
def AreExactItems : List Json → Prop
  | [] => True
  | x :: xs => x.IsExact ∧ AreExactItems xs

/-- The numbers of the members are kept exactly. -/
def AreExactFields : List (String × Json) → Prop
  | [] => True
  | (_, x) :: xs => x.IsExact ∧ AreExactFields xs

end

mutual

theorem spells_compactChars (v : Json) (h : v.IsExact) : Spells v (compactChars v) := by
  cases v with
  | null => rfl
  | bool b => rfl
  | number n => exact ⟨h, rfl⟩
  | string s => rfl
  | array items => exact ⟨_, rfl, spellsItems_compactItems items h⟩
  | object fields => exact ⟨_, rfl, spellsFields_compactFields fields h⟩

theorem spellsItems_compactItems (items : List Json) (h : AreExactItems items) :
    SpellsItems items (compactItems items) := by
  cases items with
  | nil => exact ⟨[], isGap_nil, rfl⟩
  | cons x xs =>
    have hx := padded_self (spells_compactChars x h.1)
    cases xs with
    | nil => exact ⟨_, hx, rfl⟩
    | cons y ys => exact ⟨_, _, hx, spellsItems_compactItems (y :: ys) h.2, rfl⟩

theorem spellsFields_compactFields (fields : List (String × Json)) (h : AreExactFields fields) :
    SpellsFields fields (compactFields fields) := by
  cases fields with
  | nil => exact ⟨[], isGap_nil, rfl⟩
  | cons member xs =>
    obtain ⟨name, x⟩ := member
    have hx := padded_self (spells_compactChars x h.1)
    have hkey : Padded (· = quote name) (quote name) := padded_self rfl
    cases xs with
    | nil => exact ⟨_, _, hkey, hx, rfl⟩
    | cons y ys => exact ⟨_, _, _, hkey, hx, spellsFields_compactFields (y :: ys) h.2, rfl⟩

end

theorem isGap_newLine (level : Nat) : IsGap (newLine level) := by
  intro c hc
  rcases List.mem_cons.1 hc with rfl | hc
  · rfl
  · obtain rfl := List.eq_of_mem_replicate hc
    rfl

/-- An item on a line of its own, whatever space comes after it. -/
theorem padded_line {p : List Char → Prop} {body gap : List Char} (hbody : p body)
    (hgap : IsGap gap) (level : Nat) : Padded p (newLine level ++ body ++ gap) :=
  ⟨newLine level, body, gap, isGap_newLine level, hgap, hbody, List.append_assoc _ _ _⟩

mutual

theorem spells_prettyChars (level : Nat) (v : Json) (h : v.IsExact) :
    Spells v (prettyChars level v) := by
  cases v with
  | null => rfl
  | bool b => rfl
  | number n => exact ⟨h, rfl⟩
  | string s => rfl
  | array items =>
    cases items with
    | nil => exact ⟨_, rfl, [], isGap_nil, rfl⟩
    | cons x xs =>
      exact ⟨_, rfl, spellsItems_prettyItems level (spells_prettyChars (level + 1) x h.1) xs h.2⟩
  | object fields =>
    cases fields with
    | nil => exact ⟨_, rfl, [], isGap_nil, rfl⟩
    | cons member xs =>
      obtain ⟨name, x⟩ := member
      exact ⟨_, rfl,
        spellsFields_prettyFields level name (spells_prettyChars (level + 1) x h.1) xs h.2⟩

/-- The items of an array, of which the first is spelled. -/
theorem spellsItems_prettyItems (level : Nat) {x : Json} {first : List Char}
    (hx : Spells x first) (xs : List Json) (h : AreExactItems xs) :
    SpellsItems (x :: xs) (newLine (level + 1) ++ first ++ prettyItems level xs) := by
  cases xs with
  | nil =>
    refine ⟨_, padded_line hx (isGap_newLine level) (level + 1), ?_⟩
    rw [prettyItems]
    exact (List.append_assoc _ _ _).symm
  | cons y ys =>
    have hy := spells_prettyChars (level + 1) y h.1
    refine ⟨_, _, padded_line hx isGap_nil (level + 1),
      spellsItems_prettyItems level hy ys h.2, ?_⟩
    rw [prettyItems, List.append_nil]

/-- The members of an object, of which the value of the first is spelled. -/
theorem spellsFields_prettyFields (level : Nat) (name : String) {x : Json} {first : List Char}
    (hx : Spells x first) (xs : List (String × Json)) (h : AreExactFields xs) :
    SpellsFields ((name, x) :: xs)
      (newLine (level + 1) ++ quote name ++ ':' :: ' ' :: first ++ prettyFields level xs) := by
  have hspace : IsGap [' '] := fun c hc => by
    obtain rfl := List.mem_singleton.1 hc
    rfl
  have hkey : Padded (· = quote name) (newLine (level + 1) ++ quote name) :=
    padded_of_gap (isGap_newLine (level + 1)) rfl
  cases xs with
  | nil =>
    refine ⟨_, _, hkey, ⟨_, _, _, hspace, isGap_newLine level, hx, rfl⟩, ?_⟩
    rw [prettyFields]
    simp only [List.append_assoc, List.cons_append, List.nil_append]
  | cons member ys =>
    obtain ⟨name', y⟩ := member
    have hy := spells_prettyChars (level + 1) y h.1
    refine ⟨_, _, _, hkey, padded_of_gap hspace hx,
      spellsFields_prettyFields level name' hy ys h.2, ?_⟩
    rw [prettyFields]
    simp only [List.append_assoc, List.cons_append, List.nil_append]

end

/-- Both writers spell the value they write. -/
theorem padded_spells_written {v : Json} (h : v.IsExact) :
    Padded (Spells v) (compact v).toList ∧ Padded (Spells v) (pretty v).toList := by
  constructor
  · rw [compact, String.toList_ofList]
    exact padded_self (spells_compactChars v h)
  · rw [pretty, String.toList_ofList]
    exact padded_self (spells_prettyChars 0 v h)

end Rubric.Json
