/-
  Rubric.Proofs.Template.Ordered

  Registries and tables are maps that keep the order in which names came first.

  What is put under a name that is there already takes the place of what was there, and
  anything else goes to the end. So whatever is put in one after another, names stand in
  the order of their first times, each once, with the value of its last time. A registry
  behaves as the table that has every template under its own name.
-/
import Mathlib.Data.Finset.Card
import Mathlib.Data.List.Induction
import Rubric.Conformance.Check
import Rubric.Proofs.Template.Reading

namespace Rubric

namespace Fields

variable {α : Type}

/-- What names a map has, what it holds under them and how many entries there are, after
    `calls` that put a value under a name each: names stand in the order of their first
    calls, values are those of the last calls. -/
structure Recalls (calls : List (String × α)) (names : List String) (get? : String → Option α)
    (size : Nat) : Prop where
  mem_iff : ∀ name, name ∈ names ↔ ∃ call ∈ calls, call.1 = name
  nodup : names.Nodup
  order : names.Pairwise fun a b =>
    (calls.map Prod.fst).idxOf a < (calls.map Prod.fst).idxOf b
  last : ∀ before name value after, calls = before ++ (name, value) :: after →
    (∀ later ∈ after, later.1 ≠ name) → get? name = some value
  absent : ∀ name, (∀ call ∈ calls, call.1 ≠ name) → get? name = none
  size_eq : size = (calls.map Prod.fst).toFinset.card

theorem insertAll_append_singleton (calls : List (String × α)) (call : String × α) :
    insertAll [] (calls ++ [call]) = insert call.1 call.2 (insertAll [] calls) := by
  rw [insertAll, List.foldl_append]
  rfl

theorem mem_names_insertAll {name : String} {calls : List (String × α)} :
    name ∈ names (insertAll [] calls) ↔ name ∈ names calls := by
  rw [names_insertAll_nil, List.mem_eraseDups]

/-- Names stand in the order in which they were put in first. -/
theorem pairwise_names_insertAll (calls : List (String × α)) :
    (names (insertAll [] calls)).Pairwise fun a b =>
      (names calls).idxOf a < (names calls).idxOf b := by
  induction calls using List.reverseRecOn with
  | nil => exact List.Pairwise.nil
  | append_singleton calls call ih =>
    have hnames : names (calls ++ [call]) = names calls ++ [call.1] := by simp [names]
    -- The call comes after all others, so the names before it are where they were.
    have hsame : ∀ name ∈ names (insertAll [] calls),
        (names calls ++ [call.1]).idxOf name = (names calls).idxOf name :=
      fun name h => List.idxOf_append_of_mem (mem_names_insertAll.1 h)
    have hold : (names (insertAll [] calls)).Pairwise fun a b =>
        (names calls ++ [call.1]).idxOf a < (names calls ++ [call.1]).idxOf b := by
      refine ih.imp_of_mem fun {a b} ha hb hlt => ?_
      rwa [hsame a ha, hsame b hb]
    rw [insertAll_append_singleton, names_insert, hnames]
    split
    · exact hold
    next hnew =>
      rw [List.pairwise_append]
      refine ⟨hold, List.pairwise_singleton _ _, fun a ha b hb => ?_⟩
      obtain rfl := List.mem_singleton.1 hb
      rw [hsame a ha, List.idxOf_append_of_notMem (mt mem_names_insertAll.2 hnew),
        List.idxOf_cons_self, Nat.add_zero]
      exact List.idxOf_lt_length_of_mem (mem_names_insertAll.1 ha)

/-- A name that comes up for the last time stands first in the reverse. -/
theorem get?_reverse_of_last {name : String} {value : α} {before after : List (String × α)}
    (hlast : ∀ later ∈ after, later.1 ≠ name) :
    get? name (before ++ (name, value) :: after).reverse = some value := by
  have hafter : get? name after.reverse = none := by
    rw [get?_eq_none_iff, names, List.map_reverse, List.mem_reverse, List.mem_map]
    rintro ⟨later, hlater, hname⟩
    exact hlast later hlater hname
  rw [List.reverse_append, List.reverse_cons, get?_append, get?_append, hafter, get?_cons,
    if_pos rfl]
  rfl

theorem nodup_names_insertAll_nil (calls : List (String × α)) :
    (names (insertAll [] calls)).Nodup := by
  rw [names_insertAll_nil]
  exact nodup_eraseDups_names calls

theorem insertAll_recalls (calls : List (String × α)) :
    Recalls calls (names (insertAll [] calls)) (get? · (insertAll [] calls))
      (insertAll [] calls).length where
  mem_iff name := by
    rw [mem_names_insertAll, names, List.mem_map]
  nodup := nodup_names_insertAll_nil calls
  order := pairwise_names_insertAll calls
  last := by
    rintro before name value after rfl hlast
    rw [get?_insertAll_nil, get?_reverse_of_last hlast]
  absent name habsent := by
    rw [get?_eq_none_iff, mem_names_insertAll, names, List.mem_map]
    rintro ⟨call, hcall, hname⟩
    exact habsent call hcall hname
  size_eq := by
    have hset : (names (insertAll [] calls)).toFinset = (names calls).toFinset := by
      ext name
      rw [List.mem_toFinset, List.mem_toFinset, mem_names_insertAll]
    have hcard := List.toFinset_card_of_nodup (nodup_names_insertAll_nil calls)
    rw [hset, names, names, List.length_map] at hcard
    exact hcard.symm

/-- A name that is there keeps the order of all names and the values under the others. -/
theorem insert_of_mem {name : String} {table : List (String × α)} (h : name ∈ names table)
    (value : α) :
    names (insert name value table) = names table ∧
      ∀ other, other ≠ name → get? other (insert name value table) = get? other table := by
  rw [names_insert, if_pos h]
  refine ⟨rfl, fun other hother => ?_⟩
  rw [get?_insert, if_neg hother.symm]

end Fields

namespace Registry

/-- A registry as a table. -/
def entries (registry : Registry) : List (String × Template) :=
  registry.templates.map entry

theorem names_eq (registry : Registry) : registry.names = Fields.names registry.entries := by
  rw [names, Fields.names, entries, List.map_map]
  rfl

theorem get?_eq (registry : Registry) (name : String) :
    registry.get? name = Fields.get? name registry.entries := by
  unfold get? entries
  induction registry.templates with
  | nil => rfl
  | cons t rest ih =>
    rw [List.find?_cons, List.map_cons, Fields.get?_cons, ih, entry]
    by_cases h : t.name = name <;> simp [h]

theorem size_eq (registry : Registry) : registry.size = registry.entries.length := by
  rw [size, entries, List.length_map]

theorem entries_add (registry : Registry) (t : Template) :
    (registry.add t).entries = Fields.insert t.name t registry.entries :=
  entries_insert t registry.templates

/-- Adding templates one after another puts them into a table under their names. -/
theorem entries_foldl_add (calls : List Template) :
    (calls.foldl add empty).entries = Fields.insertAll [] (calls.map entry) := by
  induction calls using List.reverseRecOn with
  | nil => rfl
  | append_singleton calls t ih =>
    rw [List.foldl_append, List.foldl_cons, List.foldl_nil, entries_add, ih, List.map_append,
      List.map_singleton, Fields.insertAll_append_singleton]
    rfl

end Registry

/-- The rules of a table that are not required. -/
def optionalCount (table : List (String × Rule)) : Nat :=
  table.countP fun entry => !entry.2.required

theorem requiredCount_add_optionalCount (table : List (String × Rule)) :
    requiredCount table + optionalCount table = table.length := by
  rw [requiredCount, optionalCount,
    List.length_eq_countP_add_countP fun entry : String × Rule => entry.2.required]
  simp

/-- Where sections are refused for their number, the least and the greatest number that
    would do are those of the required rules and of all rules. -/
theorem bounds_of_refused {table : List (String × Rule)} {additional : Bool}
    {found least most number : Nat}
    (h : matching table additional found = .refused (.sectionCount least most number)) :
    least = requiredCount table ∧ most = requiredCount table + optionalCount table := by
  rw [requiredCount_add_optionalCount]
  unfold matching at h
  extract_lets required at h
  split at h
  · cases h
  split at h
  · injection h with h
    injection h with hleast hmost
    exact ⟨hleast.symm, hmost.symm⟩
  split at h <;> cases h

/-- **Registries and tables keep their order.** After any templates were added to an empty
    registry, and after any rules were put into an empty table, names are distinct and stand
    in the order in which they came first, each holds what came last under it, and there are
    as many entries as distinct names. A name that is there can be given a new value without
    a change to the order or to any other name. The required rules of a table are no more
    than all of its rules, and what is left over is the number of optional ones, which the
    bounds that are reported for sections add to them. -/
theorem registries_and_tables_keep_order :
    (∀ calls : List Template,
      let registry := calls.foldl Registry.add .empty
      Fields.Recalls (calls.map Registry.entry) registry.names registry.get? registry.size ∧
      ∀ new : Template, new.name ∈ registry.names →
        (registry.add new).names = registry.names ∧
        ∀ name, name ≠ new.name → (registry.add new).get? name = registry.get? name) ∧
    ∀ calls : List (String × Rule),
      let table := Fields.insertAll [] calls
      Fields.Recalls calls (Fields.names table) (Fields.get? · table) table.length ∧
      (∀ name, name ∈ Fields.names table → ∀ rule,
        Fields.names (Fields.insert name rule table) = Fields.names table ∧
        ∀ other, other ≠ name →
          Fields.get? other (Fields.insert name rule table) = Fields.get? other table) ∧
      requiredCount table ≤ table.length ∧
      table.length - requiredCount table = optionalCount table ∧
      ∀ additional found least most number,
        matching table additional found = .refused (.sectionCount least most number) →
          least = requiredCount table ∧ most = requiredCount table + optionalCount table := by
  refine ⟨fun calls => ?_, fun calls => ?_⟩
  · intro registry
    have hentries : registry.entries = Fields.insertAll [] (calls.map Registry.entry) :=
      Registry.entries_foldl_add calls
    have hget : registry.get? = (Fields.get? · registry.entries) :=
      funext fun name => registry.get?_eq name
    refine ⟨?_, fun new hnew => ?_⟩
    · rw [Registry.names_eq, hget, Registry.size_eq, hentries]
      exact Fields.insertAll_recalls _
    · rw [Registry.names_eq] at hnew
      obtain ⟨hnames, hothers⟩ := Fields.insert_of_mem hnew new
      rw [Registry.names_eq, Registry.names_eq, Registry.entries_add]
      refine ⟨hnames, fun name hname => ?_⟩
      rw [Registry.get?_eq, Registry.get?_eq, Registry.entries_add]
      exact hothers name hname
  · intro table
    have hcount := requiredCount_add_optionalCount table
    refine ⟨Fields.insertAll_recalls calls, fun name => Fields.insert_of_mem, ?_, ?_,
      fun additional found least most number => bounds_of_refused⟩
    · omega
    · omega

/-- A name comes back with another value, in a registry and in a table. -/
theorem second_value_takes_first_place :
    let calls : List Template := [⟨"a", none, []⟩, ⟨"b", none, []⟩, ⟨"a", some "second", []⟩]
    let registry := calls.foldl Registry.add .empty
    let rules : List (String × Rule) :=
      [("a", {}), ("b", { required := false }), ("a", { required := false })]
    let table := Fields.insertAll [] rules
    registry.get? "a" = some ⟨"a", some "second", []⟩ ∧ registry.get? "c" = none ∧
      "b" ∈ registry.names ∧
      (registry.add ⟨"b", some "new", []⟩).names = ["a", "b"] ∧
      (registry.add ⟨"b", some "new", []⟩).get? "a" = some ⟨"a", some "second", []⟩ ∧
      Fields.get? "a" table = some { required := false } ∧
      Fields.names (Fields.insert "a" {} table) = ["a", "b"] ∧
      matching table false 3 = .refused (.sectionCount 0 2 3) ∧ optionalCount table = 2 := by
  intro calls registry rules table
  obtain ⟨hregistries, htables⟩ := registries_and_tables_keep_order
  obtain ⟨hrecalls, hreplace⟩ := hregistries calls
  obtain ⟨htable, hinsert, -, -, hbounds⟩ := htables rules
  have hb : "b" ∈ registry.names := by decide
  have ha : "a" ∈ Fields.names table := by decide
  have hmatching : matching table false 3 = .refused (.sectionCount 0 2 3) := by decide
  obtain ⟨hnames, hothers⟩ := hreplace ⟨"b", some "new", []⟩ hb
  have hsecond : registry.get? "a" = some ⟨"a", some "second", []⟩ :=
    hrecalls.last [("a", ⟨"a", none, []⟩), ("b", ⟨"b", none, []⟩)] _ _ [] rfl (by simp)
  have hoptional : optionalCount table = 2 := by
    obtain ⟨hleast, hmost⟩ := hbounds false 3 0 2 3 hmatching
    rw [← hleast, Nat.zero_add] at hmost
    exact hmost.symm
  have habsent := hrecalls.absent "c" (by simp [calls, Registry.entry])
  refine ⟨hsecond, habsent, hb, hnames, ?_, ?_, ?_, hmatching, hoptional⟩
  · rw [hothers "a" (by decide), hsecond]
  · exact htable.last [("a", {}), ("b", { required := false })] _ _ [] rfl (by simp)
  · exact (hinsert "a" ha {}).1

end Rubric
