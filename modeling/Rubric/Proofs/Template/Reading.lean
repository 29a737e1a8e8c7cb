/-
  Rubric.Proofs.Template.Reading

  Reading templates is what the schema says.

  The reader takes exactly the values that fit, at whatever path they stand, and
  reads the rule that they describe. A table is read by putting its rules in one
  after another; the recursion goes from an entry to the entries of its table,
  which are smaller values.
-/
import Rubric.Proofs.Template.Entries
import Rubric.Regex.Reader
import Rubric.Template.Source

namespace Rubric.Schema

open Rubric.Json

/-! ## One entry -/

theorem readAt_eq_ok_iff {α : Type} {read : Reader α} {means : Json → α → Prop}
    (h : Decides read means) {path : String} {v : Json} {x : α} :
    readAt path read v = .ok x ↔ means v x := by
  rw [readAt, ← readJson_eq_ok_iff h]
  cases readJson read v <;> simp

section
variable (regex : Regex.Compiler)

/-- The table that the value of a field describes, if there is one. -/
def tableAt (path : String) : Option Json → Except Failure (Option (List (String × Rule)))
  | none => .ok none
  | some w => tableOf regex path w

theorem memberTable_eq (path : String) (fields : List (String × Json)) :
    memberTable regex path fields = tableAt regex path (Fields.get? tableKey fields) := by
  induction fields with
  | nil => rw [memberTable]; rfl
  | cons entry rest ih =>
    obtain ⟨name, w⟩ := entry
    rw [memberTable, Fields.get?_cons]
    split
    · rfl
    · exact ih

theorem itemTable_eq (path : String) (index : Nat) (items : List Json) :
    itemTable regex path index items = tableAt regex path items[index]? := by
  induction items generalizing index with
  | nil => cases index <;> (rw [itemTable]; rfl)
  | cons w rest ih =>
    cases index with
    | zero => rw [itemTable]; rfl
    | succ n => rw [itemTable, ih, List.getElem?_cons_succ]

/-- A rule from its entry and its table. -/
def assemble (path : String) (entry : Except Failure SectionEntry)
    (table : Except Failure (Option (List (String × Rule)))) : Except Failure Rule :=
  match entry with
  | .error e => .error e
  | .ok entry =>
    match entry.toRule regex path with
    | .error e => .error e
    | .ok rule =>
      match table with
      | .error e => .error e
      | .ok table => .ok { rule with sections := table }

end

variable {regex : Regex.Compiler}

/-- Without a table a rule stays as it is made from its entry. -/
theorem assemble_none (path : String) (entry : Except Failure SectionEntry) :
    assemble regex path entry (.ok none) = entry.bind (SectionEntry.toRule regex path) := by
  cases entry with
  | error e => rfl
  | ok entry =>
    show assemble regex path (.ok entry) (.ok none) = entry.toRule regex path
    cases hrule : entry.toRule regex path with
    | error e => simp [assemble, hrule]
    | ok rule =>
      obtain ⟨-, hnone⟩ := SectionEntry.toRule_eq_ok_iff.1 hrule
      cases rule
      simp_all [assemble]

/-- The value of the field for the table, where a value of a shape has one. -/
def tableField (shape : List (String × Absence)) : Json → Option Json
  | .object fields => Fields.get? tableKey fields
  | .array items => items[(shape.map Prod.fst).idxOf tableKey]?
  | _ => none

theorem tableField_eq {shape : List (String × Absence)} {v : Json}
    {members : List (String × Json)} (h : Spelled shape v members)
    (hkey : tableKey ∈ shape.map Prod.fst) :
    tableField shape v = Fields.get? tableKey members := by
  cases h with
  | object => rfl
  | array => exact (Fields.get?_zip hkey).symm

theorem tableKey_mem_sectionShape : tableKey ∈ sectionShape.map Prod.fst := by
  simp [sectionShape]

theorem tableKey_mem_templateShape : tableKey ∈ templateShape.map Prod.fst := by
  simp [templateShape]

/-- A value is read as an entry with a table, also where it is nothing that could have one. -/
theorem ruleWith_eq_assemble (path : String) (v : Json) :
    ruleWith regex path v = assemble regex path (readAt path (sectionLayout.read .value {}) v)
      (tableAt regex path (tableField sectionShape v)) := by
  cases v with
  | object fields =>
    rw [ruleWith, tableField, ← memberTable_eq]
    rfl
  | array items =>
    have hindex : (sectionShape.map Prod.fst).idxOf tableKey = tableIndex := by
      simp [sectionShape, tableKey, tableIndex]
    rw [ruleWith, tableField, hindex, ← itemTable_eq]
    rfl
  | _ =>
    rw [ruleWith, tableField, tableAt, assemble_none]
    · generalize readAt path _ _ = entry
      cases entry <;> rfl
    all_goals exact nofun

theorem assemble_eq_ok_iff {path : String} {entry : Except Failure SectionEntry}
    {table : Except Failure (Option (List (String × Rule)))} {r : Rule} :
    assemble regex path entry table = .ok r ↔
      ∃ e, entry = .ok e ∧ e.Makes regex r ∧ table = .ok r.sections := by
  cases entry with
  | error e => simp [assemble]
  | ok e =>
    simp only [assemble, Except.ok.injEq, exists_eq_left']
    constructor
    · intro h
      split at h
      · cases h
      next rule hrule =>
      split at h
      · cases h
      next table =>
      obtain rfl := Except.ok.inj h
      exact ⟨(SectionEntry.toRule_eq_ok_iff.1 hrule).1.withSections table, rfl⟩
    · rintro ⟨hmakes, rfl⟩
      rw [SectionEntry.toRule_eq_ok_iff.2 ⟨hmakes.withSections none, rfl⟩]
      cases r
      rfl

/-- What a value means for a rule, with its table still to be read. -/
theorem ruleWith_eq_ok_iff_table {path : String} {v : Json} {r : Rule} :
    ruleWith regex path v = .ok r ↔
      ∃ members, Spelled sectionShape v members ∧ DescribesFields regex members r ∧
        Permits IsMapOrNull (Fields.get? tableKey members) ∧
        tableAt regex path (Fields.get? tableKey members) = .ok r.sections := by
  have hread : ∀ e, readAt path (sectionLayout.read .value {}) v = .ok e ↔
      ∃ members, Spelled sectionShape v members ∧ ReadsFields members e :=
    fun _ => readAt_eq_ok_iff decides_section
  rw [ruleWith_eq_assemble, assemble_eq_ok_iff]
  constructor
  · rintro ⟨e, he, hmakes, htable⟩
    obtain ⟨members, hspelled, hreads⟩ := (hread e).1 he
    obtain ⟨hfields, hpermits⟩ := describesFields_iff.2 ⟨e, hreads, hmakes⟩
    rw [tableField_eq hspelled tableKey_mem_sectionShape] at htable
    exact ⟨members, hspelled, hfields, hpermits, htable⟩
  · rintro ⟨members, hspelled, hfields, hpermits, htable⟩
    obtain ⟨e, hreads, hmakes⟩ := describesFields_iff.1 ⟨hfields, hpermits⟩
    rw [tableField_eq hspelled tableKey_mem_sectionShape]
    exact ⟨e, (hread e).2 ⟨members, hspelled, hreads⟩, hmakes, htable⟩

/-! ## Tables -/

theorem checkName_eq_ok_iff {path name : String} {u : Unit} :
    checkName path name = .ok u ↔ isName name = true := by
  rw [checkName]
  split <;> simp [*]

section Tables

variable {path : String} {entries : List (String × Json)}
  (hruleWith : ∀ entry ∈ entries, ∀ path r,
    ruleWith regex path entry.2 = .ok r ↔ Describes regex entry.2 r)

include hruleWith

theorem ruleWith_eq_ok_described {entry : String × Json} (hentry : entry ∈ entries)
    (h : ∃ r, Describes regex entry.2 r) (path : String) :
    ruleWith regex path entry.2 = .ok (described regex entry.2) :=
  (hruleWith entry hentry path _).2 (describes_described h)

/-- A value describes one rule at most. -/
theorem eq_described {entry : String × Json} (hentry : entry ∈ entries) {r : Rule}
    (h : Describes regex entry.2 r) : r = described regex entry.2 := by
  have hr := (hruleWith entry hentry "" r).2 h
  rw [ruleWith_eq_ok_described hruleWith hentry ⟨r, h⟩] at hr
  exact (Except.ok.inj hr).symm

/-- Putting the rules of entries into a table succeeds if each entry has a name and
    describes a rule. -/
theorem tableInto_eq_ok_iff {table out : List (String × Rule)} :
    tableInto regex path table entries = .ok out ↔
      (∀ entry ∈ entries, isName entry.1 ∧ ∃ r, Describes regex entry.2 r) ∧
      out = Fields.insertAll table (Fields.mapValues (described regex) entries) := by
  induction entries generalizing table with
  | nil =>
    rw [tableInto, Except.ok.injEq, Fields.mapValues, List.map_nil, Fields.insertAll,
      List.foldl_nil, and_iff_right (List.forall_mem_nil _), eq_comm]
  | cons entry rest ih =>
    obtain ⟨name, v⟩ := entry
    have hrest : ∀ table, tableInto regex path table rest = .ok out ↔ _ := fun table =>
      @ih (fun entry hentry => hruleWith entry (List.mem_cons_of_mem _ hentry)) table
    rw [tableInto, List.forall_mem_cons, Fields.mapValues_cons, Fields.insertAll_cons]
    constructor
    · intro h
      split at h
      · cases h
      next hname =>
      split at h
      · cases h
      next rule hrule =>
      have hdescribes := (hruleWith _ List.mem_cons_self _ _).1 hrule
      obtain rfl := eq_described hruleWith List.mem_cons_self hdescribes
      obtain ⟨hall, hout⟩ := (hrest _).1 h
      exact ⟨⟨⟨checkName_eq_ok_iff.1 hname, _, hdescribes⟩, hall⟩, hout⟩
    · rintro ⟨⟨⟨hname, hdescribes⟩, hall⟩, hout⟩
      rw [(@checkName_eq_ok_iff _ _ ()).2 hname,
        ruleWith_eq_ok_described hruleWith List.mem_cons_self hdescribes]
      exact (hrest _).2 ⟨hall, hout⟩

/-- A table of entries is read as they describe it. -/
theorem tableOf_object_eq_ok_iff {table : Option (List (String × Rule))} :
    tableOf regex path (.object entries) = .ok table ↔
      DescribesTable regex (some (.object entries)) table := by
  have hinto : ∀ out, tableInto regex path [] entries = .ok out ↔ _ :=
    fun out => tableInto_eq_ok_iff hruleWith
  rw [tableOf]
  constructor
  · intro h
    split at h
    · cases h
    next out hout =>
    obtain rfl := Except.ok.inj h
    obtain ⟨hall, rfl⟩ := (hinto out).1 hout
    exact describesTable_insertAll (fun entry hentry => (hall entry hentry).1)
      fun entry hentry => (hall entry hentry).2
  · intro h
    -- The table that is described has the names and the values of the one that is read.
    cases h with
    | @object _ table rules hnames hrules hkeys hlast =>
      have hdescribed : ∀ entry ∈ entries, rules entry.2 = described regex entry.2 :=
        fun entry hentry => eq_described hruleWith hentry (hrules entry hentry)
      have hget : ∀ name, Fields.get? name table =
          Fields.get? name (Fields.insertAll [] (Fields.mapValues (described regex) entries)) := by
        intro name
        rw [hlast, Fields.get?_insertAll_mapValues]
        cases hfound : Fields.get? name entries.reverse with
        | none => rfl
        | some v =>
          have hmem := List.mem_reverse.1 (Fields.mem_of_get? hfound)
          exact congrArg some (hdescribed _ hmem)
      have hsame : table = Fields.insertAll [] (Fields.mapValues (described regex) entries) :=
        Fields.ext (hkeys ▸ Fields.nodup_eraseDups_names entries)
          (by rw [hkeys, Fields.names_insertAll_nil, Fields.names_mapValues]) hget
      rw [(hinto table).2 ⟨fun entry hentry =>
        ⟨hnames entry hentry, _, hrules entry hentry⟩, hsame⟩]

end Tables

theorem tableAt_eq_ok_iff {path : String} {found : Option Json}
    (hruleWith : ∀ entries, found = some (.object entries) → ∀ entry ∈ entries,
      ∀ path r, ruleWith regex path entry.2 = .ok r ↔ Describes regex entry.2 r)
    {table : Option (List (String × Rule))} :
    (Permits IsMapOrNull found ∧ tableAt regex path found = .ok table) ↔
      DescribesTable regex found table := by
  constructor
  · rintro ⟨hpermits, h⟩
    cases found with
    | none =>
      obtain rfl := Except.ok.inj h
      exact .absent
    | some w =>
      obtain rfl | ⟨entries, rfl⟩ := hpermits w rfl
      · rw [tableAt, tableOf] at h
        · obtain rfl := Except.ok.inj h
          exact .null
        · exact nofun
      · exact (tableOf_object_eq_ok_iff (hruleWith entries rfl)).1 h
  · intro h
    cases found with
    | none =>
      cases h
      exact ⟨nofun, rfl⟩
    | some w =>
      have hpermits : IsMapOrNull w := by
        cases h with
        | null => exact .inl rfl
        | object => exact .inr ⟨_, rfl⟩
      refine ⟨fun _ heq => Option.some.inj heq ▸ hpermits, ?_⟩
      obtain rfl | ⟨entries, rfl⟩ := hpermits
      · cases h
        rw [tableAt, tableOf]
        exact nofun
      · exact (tableOf_object_eq_ok_iff (hruleWith entries rfl)).2 h

/-- The entries of a table are smaller than the value that the table belongs to. -/
theorem sizeOf_entry_lt {shape : List (String × Absence)} {v : Json}
    {members entries : List (String × Json)} {key : String} {entry : String × Json}
    (hspelled : Spelled shape v members) (htable : Fields.get? key members = some (.object entries))
    (hentry : entry ∈ entries) : sizeOf entry.2 < sizeOf v := by
  have hsmall : sizeOf entry.2 < sizeOf (Json.object entries) := by
    have := List.sizeOf_lt_of_mem hentry
    obtain ⟨name, w⟩ := entry
    simp only [Json.object.sizeOf_spec, Prod.mk.sizeOf_spec] at this ⊢
    omega
  have hmem := Fields.mem_of_get? htable
  cases hspelled with
  | object =>
    have := List.sizeOf_lt_of_mem hmem
    simp only [Json.object.sizeOf_spec, Prod.mk.sizeOf_spec] at this hsmall ⊢
    omega
  | array =>
    have := List.sizeOf_lt_of_mem (List.of_mem_zip hmem).2
    simp only [Json.object.sizeOf_spec, Json.array.sizeOf_spec] at this hsmall ⊢
    omega

/-- The reader takes exactly the values that describe a rule, and reads the rule that they
    describe. -/
theorem ruleWith_eq_ok_iff {path : String} {v : Json} {r : Rule} :
    ruleWith regex path v = .ok r ↔ Describes regex v r := by
  -- On the size of the value: the entries of its table are smaller.
  have htable : ∀ members, Spelled sectionShape v members →
      ((Permits IsMapOrNull (Fields.get? tableKey members) ∧
        tableAt regex path (Fields.get? tableKey members) = .ok r.sections) ↔
      DescribesTable regex (Fields.get? tableKey members) r.sections) := fun members hspelled =>
    tableAt_eq_ok_iff fun entries hfound entry hentry path r =>
      have := sizeOf_entry_lt hspelled hfound hentry
      ruleWith_eq_ok_iff
  rw [ruleWith_eq_ok_iff_table]
  constructor
  · rintro ⟨members, hspelled, hfields, hpermits, hat⟩
    exact .intro hspelled hfields ((htable members hspelled).1 ⟨hpermits, hat⟩)
  · rintro ⟨hspelled, hfields, hdescribes⟩
    exact ⟨_, hspelled, hfields, (htable _ hspelled).2 hdescribes⟩
termination_by sizeOf v

/-! ## Templates and registries -/

theorem templateTable_eq (path : String) (v : Json) :
    templateTable regex path v = tableAt regex path (tableField templateShape v) := by
  cases v with
  | object fields => rw [templateTable, memberTable_eq, tableField]
  | array items =>
    have hindex : (templateShape.map Prod.fst).idxOf tableKey = 1 := by
      simp [templateShape, tableKey]
    rw [templateTable, itemTable_eq, tableField, hindex]
  | _ => rfl

theorem templateWith_eq_ok_iff {name : String} {v : Json} {t : Template} :
    templateWith regex name v = .ok t ↔ t.name = name ∧ DescribesTemplate regex v t := by
  have hread : ∀ d, readAt (templatePath name) (templateLayout.read .value none) v = .ok d ↔ _ :=
    fun _ => readAt_eq_ok_iff decides_template
  have hat : ∀ {found table}, _ ↔ DescribesTable regex found table := fun {found table} =>
    @tableAt_eq_ok_iff regex (templatePath name) found (fun _ _ _ _ _ _ => ruleWith_eq_ok_iff) table
  rw [templateWith]
  constructor
  · intro h
    split at h
    · cases h
    next hname =>
    split at h
    · cases h
    next description hdescription =>
    obtain ⟨members, hspelled, htext, hpermits⟩ := (hread _).1 hdescription
    split at h
    · cases h
    next table htable =>
    obtain rfl := Except.ok.inj h
    rw [templateTable_eq, tableField_eq hspelled tableKey_mem_templateShape] at htable
    exact ⟨rfl, checkName_eq_ok_iff.1 hname, members, table, hspelled, htext,
      hat.1 ⟨hpermits, htable⟩, rfl⟩
  · rintro ⟨rfl, hname, members, table, hspelled, htext, htable, hsections⟩
    obtain ⟨hpermits, hok⟩ := hat.2 htable
    rw [(@checkName_eq_ok_iff _ _ ()).2 hname, (hread _).2 ⟨members, hspelled, htext, hpermits⟩,
      templateTable_eq, tableField_eq hspelled tableKey_mem_templateShape, hok]
    simp [← hsections]

end Rubric.Schema

namespace Rubric.Registry

open Rubric.Schema

variable {regex : Regex.Compiler}

/-- A template under its name. -/
def entry (t : Template) : String × Template :=
  (t.name, t)

/-- Adding a template to a registry puts it into a table under its name. -/
theorem entries_insert (t : Template) (ts : List Template) :
    (insert t ts).map entry = Fields.insert t.name t (ts.map entry) := by
  induction ts with
  | nil => rfl
  | cons first rest ih =>
    rw [insert, List.map_cons, entry, Fields.insert]
    split
    · rw [List.map_cons, entry, ‹first.name = t.name›]
    · rw [List.map_cons, ih, entry]

/-- Each member describes a template, and these are added one after another. -/
theorem exists_templates_of_addAll {registry out : Registry} {members : List (String × Json)}
    (h : addAll regex registry members = .ok out) :
    ∃ templates : List Template,
      List.Forall₂ (fun a b => a.1 = b.1 ∧ DescribesTemplate regex a.2 b.2) members
        (templates.map entry) ∧
      out.templates.map entry =
        Fields.insertAll (registry.templates.map entry) (templates.map entry) := by
  induction members generalizing registry with
  | nil =>
    obtain rfl := Except.ok.inj h
    exact ⟨[], .nil, rfl⟩
  | cons member rest ih =>
    rw [addAll] at h
    split at h
    · cases h
    next t ht =>
    obtain ⟨hname, hdescribes⟩ := templateWith_eq_ok_iff.1 ht
    obtain ⟨templates, hall, hout⟩ := ih h
    refine ⟨t :: templates, .cons ⟨hname.symm, hdescribes⟩ hall, ?_⟩
    rw [hout, add, entries_insert]
    rfl

variable (regex) in
/-- A registry holds the templates that some members describe: it has their names in
    source order, each once, and under each name the template that the last member of this
    name describes. -/
structure Holds (members : List (String × Json)) (registry : Registry) : Prop where
  names : registry.names = (Fields.names members).eraseDups
  templates : ∀ t ∈ registry.templates, ∃ v,
    Fields.get? t.name members.reverse = some v ∧ DescribesTemplate regex v t

theorem holds_of_addAll {out : Registry} {members : List (String × Json)}
    (h : addAll regex empty members = .ok out) : Holds regex members out := by
  obtain ⟨templates, hall, hentries⟩ := exists_templates_of_addAll h
  have hempty : out.templates.map entry = Fields.insertAll [] (templates.map entry) := hentries
  have hnodup : (Fields.names (out.templates.map entry)).Nodup :=
    hempty ▸ Fields.nodup_names_insertAll (by simp) _
  refine ⟨?_, fun t ht => ?_⟩
  · rw [Fields.names_eq_of_forall₂ hall, ← Fields.names_insertAll_nil, ← hempty, Fields.names,
      List.map_map]
    rfl
  · have hget := Fields.get?_of_mem hnodup (List.mem_map_of_mem ht)
    rw [hempty, Fields.get?_insertAll_nil] at hget
    exact Fields.exists_get?_of_forall₂ (List.forall₂_reverse_iff.2 hall) hget

/-- What a registry that was read from a text holds. -/
theorem holds_of_ofTextWith {format : TemplateFormat} {text : String} {registry : Registry}
    (h : ofTextWith regex format text = .ok registry) :
    ∃ source document members, format.read text = .ok source ∧
      Json.resolve source = .ok document ∧
      document.get? "templates" = some (.object members) ∧ Holds regex members registry := by
  rw [ofTextWith] at h
  split at h
  · cases h
  next source hsource =>
  split at h
  · cases h
  next document hdocument =>
  rw [ofValue] at h
  split at h
  · next members hmembers =>
    refine ⟨source, document, members, ?_, hdocument, hmembers, holds_of_addAll h⟩
    cases hread : format.read text with
    | error e => simp [hread, inContext] at hsource
    | ok value => simpa [hread, inContext] using hsource
  · cases h
  · cases h

end Rubric.Registry

namespace Rubric.Schema

/-- Whatever compiles the patterns, the reader of templates takes exactly the values that fit
    the schema, whatever path they stand at. The rule it reads is the one that the value
    describes, field by field, and is well-formed at every depth; so are the rules of all
    templates of a registry, which are those that the document describes after its references
    are resolved. -/
theorem reads_exactly_schema (regex : Regex.Compiler) :
    (∀ path v, (∃ r, ruleWith regex path v = .ok r) ↔ Fits regex v) ∧
    (∀ path v r, (ruleWith regex path v = .ok r ↔ Describes regex v r) ∧
      (ruleWith regex path v = .ok r → RuleWellFormed r)) ∧
    (∀ format text registry, Registry.ofTextWith regex format text = .ok registry →
      ∃ source document members, format.read text = .ok source ∧
        Json.resolve source = .ok document ∧
        document.get? "templates" = some (.object members) ∧
        Registry.Holds regex members registry ∧
        ∀ t ∈ registry.templates, TableWellFormed t.sections) := by
  refine ⟨fun path v => ?_, fun path v r => ⟨ruleWith_eq_ok_iff, fun h => ?_⟩,
    fun format text registry h => ?_⟩
  · simp only [ruleWith_eq_ok_iff, fits_iff_exists_describes]
  · exact (ruleWith_eq_ok_iff.1 h).wellFormed
  · obtain ⟨source, document, members, hsource, hdocument, hmembers, hholds⟩ :=
      Registry.holds_of_ofTextWith h
    refine ⟨source, document, members, hsource, hdocument, hmembers, hholds, fun t ht => ?_⟩
    obtain ⟨v, -, hdescribes⟩ := hholds.templates t ht
    exact hdescribes.wellFormed

/-- A rule with a sequence, in the table of a rule that is written as an array. -/
def nestedEntry : Json :=
  .array [.string "top", .null, .bool false, .null, .null, .null, .null, .null, .bool true,
    .object [("steps", .object [
      ("sequence", .array [
        .object [("paragraphs", .object [("patterns", .array [.string "^a"])])],
        .array [.null, .array [.number (.natural 1), .null], .null]])])]]

/-- The text of a template file with one template of two sections. -/
def briefFile : String :=
  "\x7b\"templates\":\x7b\"brief\":\x7b\"sections\":" ++
    "\x7b\"b\":\x7b\x7d,\"a\":\x7b\x7d\x7d\x7d\x7d\x7d"

/-- The value in the template file. -/
def briefDocument : Json :=
  .object [("templates", .object [("brief", .object [("sections", .object
    [("b", .object []), ("a", .object [])])])])]

/-- What the template file holds. -/
def briefRegistry : Registry :=
  ⟨[⟨"brief", none, [("b", {}), ("a", {})]⟩]⟩

theorem nested_entry_is_read :
    let regex := Pattern.ofText?
    (∃ r, ruleWith regex "top" nestedEntry = .ok r ∧ Describes regex nestedEntry r ∧
      RuleWellFormed r) ∧
    Fits regex nestedEntry ∧
    Registry.ofTextWith regex .json briefFile = .ok briefRegistry ∧
    ∀ t ∈ briefRegistry.templates, TableWellFormed t.sections := by
  intro regex
  obtain ⟨hfits, hrule, hregistry⟩ := reads_exactly_schema regex
  obtain ⟨r, hr⟩ : ∃ r, ruleWith regex "top" nestedEntry = .ok r := ⟨_, rfl⟩
  have hread : TemplateFormat.json.read briefFile = .ok briefDocument := by cbv
  have hresolve : Json.resolve briefDocument = .ok briefDocument := by cbv
  have hok : Registry.ofTextWith regex .json briefFile = .ok briefRegistry := by
    rw [Registry.ofTextWith, hread, inContext]
    dsimp only
    rw [hresolve]
    rfl
  obtain ⟨_, _, _, -, -, -, -, hwellFormed⟩ := hregistry .json briefFile briefRegistry hok
  exact ⟨⟨r, hr, (hrule "top" nestedEntry r).1.1 hr, (hrule "top" nestedEntry r).2 hr⟩,
    (hfits "top" nestedEntry).1 ⟨r, hr⟩, hok, hwellFormed⟩

end Rubric.Schema
