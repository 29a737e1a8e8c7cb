/-
  Rubric.Proofs.Json.Fields

  Tables: the names they have, and what stands under a name.

  Putting entries into a table one after another keeps each name at its first
  place and under it the last value.
-/
import Mathlib.Data.List.Forall2
import Mathlib.Data.List.Nodup
import Rubric.Json.Basic

namespace Rubric.Fields

variable {α β : Type}

/-- The names of a table. -/
def names (table : List (String × α)) : List String :=
  table.map Prod.fst

@[simp] theorem names_nil : names ([] : List (String × α)) = [] := rfl

@[simp] theorem names_cons (entry : String × α) (rest : List (String × α)) :
    names (entry :: rest) = entry.1 :: names rest := rfl

theorem get?_cons (name : String) (entry : String × α) (rest : List (String × α)) :
    get? name (entry :: rest) = if entry.1 = name then some entry.2 else get? name rest := by
  obtain ⟨n, v⟩ := entry
  rfl

theorem get?_eq_none_iff {name : String} {table : List (String × α)} :
    get? name table = none ↔ name ∉ names table := by
  induction table with
  | nil => simp [get?]
  | cons entry rest ih =>
    rw [get?_cons]
    by_cases h : entry.1 = name
    · simp [h]
    · simp [h, ih, Ne.symm h]

theorem mem_of_get? {name : String} {value : α} {table : List (String × α)}
    (h : get? name table = some value) : (name, value) ∈ table := by
  induction table with
  | nil => cases h
  | cons entry rest ih =>
    rw [get?_cons] at h
    split at h
    · next hname =>
      obtain rfl : entry.2 = value := by simpa using h
      exact hname ▸ List.mem_cons_self
    · exact List.mem_cons_of_mem _ (ih h)

theorem get?_of_mem {entry : String × α} {table : List (String × α)} (hnodup : (names table).Nodup)
    (h : entry ∈ table) : get? entry.1 table = some entry.2 := by
  induction table with
  | nil => cases h
  | cons first rest ih =>
    obtain ⟨hfirst, hrest⟩ := List.nodup_cons.1 hnodup
    rw [get?_cons]
    cases h with
    | head => rw [if_pos rfl]
    | tail _ h =>
      have hne : first.1 ≠ entry.1 := fun heq => hfirst (heq ▸ List.mem_map_of_mem h)
      rw [if_neg hne, ih hrest h]

theorem get?_append (name : String) (first second : List (String × α)) :
    get? name (first ++ second) = (get? name first).or (get? name second) := by
  induction first with
  | nil => simp [get?]
  | cons entry rest ih =>
    rw [List.cons_append, get?_cons, get?_cons]
    split
    · rfl
    · exact ih

/-- Taking a name out of a table leaves the values under the other names. -/
theorem get?_filter_ne (name other : String) (table : List (String × α)) :
    get? other (table.filter fun entry => entry.1 != name) =
      if name = other then none else get? other table := by
  induction table with
  | nil => simp [get?]
  | cons entry rest ih =>
    rw [List.filter_cons, get?_cons]
    by_cases hname : entry.1 = name
    · subst hname
      rw [if_neg (by simp), ih]
      split <;> rfl
    · by_cases ho : name = other
      · subst ho
        simp [ih, get?_cons, hname]
      · simp [ih, get?_cons, hname, ho]

/-- Names put beside values: the value under a name is the one at its place. -/
theorem get?_zip {name : String} {ns : List String} {values : List α} (h : name ∈ ns) :
    get? name (ns.zip values) = values[ns.idxOf name]? := by
  induction ns generalizing values with
  | nil => cases h
  | cons n ns ih =>
    cases values with
    | nil => rfl
    | cons v vs =>
      rw [List.zip_cons_cons, get?_cons]
      by_cases hn : n = name
      · simp [hn]
      · have hmem : name ∈ ns := by
          cases h with
          | head => exact absurd rfl hn
          | tail _ h => exact h
        rw [if_neg hn, ih hmem, List.idxOf_cons_ne _ hn, List.getElem?_cons_succ]

/-- All values under a name, in their order. -/
def allUnder (name : String) (table : List (String × α)) : List α :=
  (table.filter fun entry => entry.1 == name).map Prod.snd

theorem allUnder_cons (name other : String) (value : α) (rest : List (String × α)) :
    allUnder name ((other, value) :: rest) =
      if other = name then value :: allUnder name rest else allUnder name rest := by
  by_cases h : other = name <;> simp [allUnder, h]

/-- A table with a function applied to each value. -/
def mapValues (f : α → β) (table : List (String × α)) : List (String × β) :=
  table.map fun entry => (entry.1, f entry.2)

theorem mapValues_cons (f : α → β) (entry : String × α) (rest : List (String × α)) :
    mapValues f (entry :: rest) = (entry.1, f entry.2) :: mapValues f rest := rfl

theorem names_mapValues (f : α → β) (table : List (String × α)) :
    names (mapValues f table) = names table := by
  simp [names, mapValues]

theorem get?_mapValues (f : α → β) (name : String) (table : List (String × α)) :
    get? name (mapValues f table) = (get? name table).map f := by
  induction table with
  | nil => rfl
  | cons entry rest ih =>
    rw [mapValues_cons, get?_cons, get?_cons, ih]
    split <;> rfl

/-- Two tables with the same names in the same order and the same values under them are
    the same table. -/
theorem ext {table other : List (String × α)} (hnodup : (names table).Nodup)
    (hnames : names table = names other) (hget : ∀ name, get? name table = get? name other) :
    table = other := by
  induction table generalizing other with
  | nil =>
    cases other with
    | nil => rfl
    | cons entry rest => cases hnames
  | cons entry rest ih =>
    cases other with
    | nil => cases hnames
    | cons entry' rest' =>
      obtain ⟨n, v⟩ := entry
      obtain ⟨n', v'⟩ := entry'
      obtain ⟨rfl, htail⟩ : n = n' ∧ names rest = names rest' := by simpa using hnames
      obtain ⟨hfirst, hrest⟩ := List.nodup_cons.1 hnodup
      obtain rfl : v = v' := by simpa [get?_cons] using hget n
      have hsame : rest = rest' := ih hrest htail fun name => by
        -- The first name stands nowhere in the rests; any other is found in them alone.
        by_cases h : n = name
        · subst h
          rw [get?_eq_none_iff.2 hfirst, get?_eq_none_iff.2 (htail ▸ hfirst)]
        · simpa [get?_cons, h] using hget name
      rw [hsame]

theorem names_eq_of_forall₂ {rel : α → β → Prop} {table : List (String × α)}
    {other : List (String × β)}
    (h : List.Forall₂ (fun a b => a.1 = b.1 ∧ rel a.2 b.2) table other) :
    names table = names other := by
  induction h with
  | nil => rfl
  | cons hfirst _ ih => rw [names_cons, names_cons, hfirst.1, ih]

/-- If two tables correspond entry by entry, what is found in the one corresponds to what
    is found in the other. -/
theorem exists_get?_of_forall₂ {rel : α → β → Prop} {table : List (String × α)}
    {other : List (String × β)} (h : List.Forall₂ (fun a b => a.1 = b.1 ∧ rel a.2 b.2) table other)
    {name : String} {b : β} (hb : get? name other = some b) :
    ∃ a, get? name table = some a ∧ rel a b := by
  induction h with
  | nil => cases hb
  | cons hfirst _ ih =>
    obtain ⟨hname, hrel⟩ := hfirst
    rw [get?_cons] at hb ⊢
    rw [hname]
    split at hb
    · next heq =>
      obtain rfl := Option.some.inj hb
      exact ⟨_, if_pos heq, hrel⟩
    · next hne =>
      rw [if_neg hne]
      exact ih hb

/-! ## Putting entries in -/

theorem names_insert (name : String) (value : α) (table : List (String × α)) :
    names (insert name value table) =
      if name ∈ names table then names table else names table ++ [name] := by
  induction table with
  | nil => simp [insert, names]
  | cons entry rest ih =>
    obtain ⟨n, v⟩ := entry
    by_cases h : n = name
    · simp [insert, h]
    · have hne : name ≠ n := Ne.symm h
      simp only [insert, if_neg h, names_cons, ih, List.mem_cons, hne, false_or]
      split <;> rfl

/-- A new name goes to the end. -/
theorem insert_of_notMem {name : String} {table : List (String × α)} (h : name ∉ names table)
    (value : α) : insert name value table = table ++ [(name, value)] := by
  induction table with
  | nil => rfl
  | cons entry rest ih =>
    obtain ⟨n, v⟩ := entry
    obtain ⟨hne, hrest⟩ := List.ne_and_not_mem_of_not_mem_cons h
    rw [insert, if_neg (Ne.symm hne), ih hrest, List.cons_append]

/-- After a value is put into a table there is nothing else in it than before. -/
theorem mem_of_mem_insert {name : String} {value : α} {table : List (String × α)}
    {entry : String × α} (h : entry ∈ insert name value table) :
    entry = (name, value) ∨ entry ∈ table := by
  induction table with
  | nil => exact Or.inl (List.mem_singleton.1 h)
  | cons first rest ih =>
    obtain ⟨n, v⟩ := first
    rw [insert] at h
    split at h
    · next hname =>
      rcases List.mem_cons.1 h with rfl | hrest
      · exact Or.inl (hname ▸ rfl)
      · exact Or.inr (List.mem_cons_of_mem _ hrest)
    · rcases List.mem_cons.1 h with rfl | hrest
      · exact Or.inr List.mem_cons_self
      · exact (ih hrest).imp_right (List.mem_cons_of_mem _)

theorem get?_insert (name other : String) (value : α) (table : List (String × α)) :
    get? other (insert name value table) =
      if name = other then some value else get? other table := by
  induction table with
  | nil => simp [insert, get?_cons, get?]
  | cons entry rest ih =>
    obtain ⟨n, v⟩ := entry
    by_cases h : n = name
    · subst h
      by_cases ho : n = other <;> simp [insert, get?_cons, ho]
    · by_cases ho : n = other
      · subst ho
        simp [insert, get?_cons, h, Ne.symm h]
      · simp [insert, get?_cons, h, ho, ih]

/-- A table after entries were put into it one after another. -/
def insertAll (table entries : List (String × α)) : List (String × α) :=
  entries.foldl (fun table entry => insert entry.1 entry.2 table) table

theorem insertAll_cons (table : List (String × α)) (entry : String × α)
    (rest : List (String × α)) :
    insertAll table (entry :: rest) = insertAll (insert entry.1 entry.2 table) rest := rfl

theorem nodup_names_insert {table : List (String × α)} (h : (names table).Nodup) (name : String)
    (value : α) : (names (insert name value table)).Nodup := by
  rw [names_insert]
  split
  · exact h
  · next hname =>
    exact List.nodup_append.2 ⟨h, List.nodup_singleton _, fun a ha b hb => by
      obtain rfl : b = name := by simpa using hb
      exact fun heq => hname (heq ▸ ha)⟩

theorem nodup_names_insertAll {table : List (String × α)} (h : (names table).Nodup)
    (entries : List (String × α)) : (names (insertAll table entries)).Nodup := by
  induction entries generalizing table with
  | nil => exact h
  | cons entry rest ih => exact ih (nodup_names_insert h _ _)

/-- The names are those that were there and then those that are new, each at its first
    place. -/
theorem names_insertAll (table entries : List (String × α)) :
    names (insertAll table entries) =
      names table ++ ((names entries).removeAll (names table)).eraseDups := by
  induction entries generalizing table with
  | nil => simp [insertAll, List.removeAll]
  | cons entry rest ih =>
    rw [insertAll_cons, ih, names_insert, names_cons]
    by_cases h : entry.1 ∈ names table
    · rw [if_pos h]
      simp [List.removeAll, h]
    · rw [if_neg h]
      simp [List.removeAll, h, List.eraseDups_cons, List.filter_filter, Bool.not_or, Bool.and_comm,
        Bool.beq_eq_decide_eq]

/-- Under each name stands what was put there last, or what was there before. -/
theorem get?_insertAll (name : String) (table entries : List (String × α)) :
    get? name (insertAll table entries) =
      (get? name entries.reverse).or (get? name table) := by
  induction entries generalizing table with
  | nil => simp [insertAll, get?]
  | cons entry rest ih =>
    rw [insertAll_cons, ih, get?_insert, List.reverse_cons, get?_append, get?_cons, Option.or_assoc]
    split <;> simp [get?]

/-- A table of some entries has their names in order, each once. -/
theorem names_insertAll_nil (entries : List (String × α)) :
    names (insertAll [] entries) = (names entries).eraseDups := by
  simp [names_insertAll, List.removeAll]

theorem nodup_eraseDups_names (entries : List (String × α)) : (names entries).eraseDups.Nodup := by
  rw [← names_insertAll_nil]
  exact nodup_names_insertAll (by simp) entries

theorem get?_insertAll_nil (name : String) (entries : List (String × α)) :
    get? name (insertAll [] entries) = get? name entries.reverse := by
  simp [get?_insertAll, get?]

theorem get?_insertAll_mapValues (f : α → β) (name : String) (entries : List (String × α)) :
    get? name (insertAll [] (mapValues f entries)) = (get? name entries.reverse).map f := by
  rw [get?_insertAll_nil, ← get?_mapValues, mapValues, mapValues, List.map_reverse]

end Rubric.Fields
