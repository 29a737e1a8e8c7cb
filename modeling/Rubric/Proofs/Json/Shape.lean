/-
  Rubric.Proofs.Json.Shape

  What the readers of plain values accept, and what they read.

  `Decides read means` ties a reader to a relation between values and what they
  mean: the reader takes exactly the values that mean something, and reads what
  they mean. A structure is a list of aspects, each a field with the part of the
  structure it is about. Whichever order the members of an object come in, each
  part of the result is what the member of its name means, or what it was before
  where there is no such member.
-/
import Mathlib.Algebra.Group.Nat.Defs
import Rubric.Json.Shape
import Rubric.Proofs.Json.Fields

namespace Rubric.Json

variable {α σ : Type}

/-! ## Simple shapes -/

/-- A reader takes exactly the values that mean something, and reads what they mean. The
    nesting that is allowed is what `readJson` allows, or more. -/
def Decides (read : Reader α) (means : Json → α → Prop) : Prop :=
  ∀ (v : Json) (x : α) (room : Nat), v.depth + 2 ≤ room →
    (read room (Draft.ofJson v) = .ok x ↔ means v x)

/-- A reader takes exactly the values that fit, whatever it reads from them. -/
def Accepts (read : Reader α) (fits : Json → Prop) : Prop :=
  ∀ (v : Json) (room : Nat), v.depth + 2 ≤ room →
    ((∃ x, read room (Draft.ofJson v) = .ok x) ↔ fits v)

/-- A value is a string. -/
def IsText (v : Json) (s : String) : Prop :=
  v = .string s

/-- A value is a truth value. -/
def IsBool (v : Json) (b : Bool) : Prop :=
  v = .bool b

/-- A value is a whole number of at most 64 bits. -/
def IsSize (v : Json) (n : Nat) : Prop :=
  v = .number (.natural n) ∧ n < 2 ^ 64

/-- A value is null, or means something. -/
inductive OrNull (means : Json → α → Prop) : Json → Option α → Prop
  | null : OrNull means .null none
  | given {v : Json} {x : α} (hv : v ≠ .null) (h : means v x) : OrNull means v (some x)

/-- A value is an array, and its items mean something each. -/
def EachOf (means : Json → α → Prop) (v : Json) (xs : List α) : Prop :=
  ∃ items, v = .array items ∧ List.Forall₂ means items xs

theorem readJson_eq_ok_iff {read : Reader α} {means : Json → α → Prop}
    (h : Decides read means) {v : Json} {x : α} : readJson read v = .ok x ↔ means v x :=
  h v x (v.depth + 2) (Nat.le_refl _)

theorem Decides.congr {read : Reader α} {means means' : Json → α → Prop} (h : Decides read means)
    (hmeans : ∀ v x, means v x ↔ means' v x) : Decides read means' :=
  fun v x room hroom => (h v x room hroom).trans (hmeans v x)

/-- A value without mistakes is refused for its shape, never read. -/
theorem refuse_ne_ok (wanted : String) (draft : Draft) (x : α) : refuse wanted draft ≠ .ok x := by
  unfold refuse
  split <;> exact nofun

theorem decides_text : Decides readText IsText := by
  intro v s room _
  cases v <;> simp [Draft.ofJson, readText, IsText, refuse_ne_ok]

theorem decides_bool : Decides readBool IsBool := by
  intro v b room _
  cases v <;> simp [Draft.ofJson, readBool, IsBool, refuse_ne_ok]

theorem decides_size : Decides readSize IsSize := by
  intro v n room _
  cases v with
  | number k =>
    cases k with
    | natural m =>
      simp only [Draft.ofJson, readSize, readUnsigned, IsSize, Json.number.injEq,
        Number.natural.injEq]
      constructor
      · intro h
        split at h
        · obtain rfl : m = n := by simpa using h
          exact ⟨rfl, ‹_›⟩
        · cases h
      · rintro ⟨rfl, hm⟩
        exact if_pos hm
    | negative m => simp [Draft.ofJson, readSize, readUnsigned, IsSize]
    | real m => simp [Draft.ofJson, readSize, readUnsigned, IsSize, refuse_ne_ok]
  | _ => simp [Draft.ofJson, readSize, readUnsigned, IsSize, refuse_ne_ok]

theorem draft_eq_null_iff {v : Json} : Draft.ofJson v = .null ↔ v = .null := by
  cases v <;> simp [Draft.ofJson]

theorem decides_option {read : Reader α} {means : Json → α → Prop} (h : Decides read means) :
    Decides (readOption read) (OrNull means) := by
  intro v x room hroom
  by_cases hv : v = .null
  · subst hv
    constructor
    · intro hread
      obtain rfl : none = x := by simpa [Draft.ofJson, readOption] using hread
      exact .null
    · intro hmeans
      cases hmeans with
      | null => rfl
      | given hv _ => exact absurd rfl hv
  · have hread : readOption read room (Draft.ofJson v) =
        (read room (Draft.ofJson v)).map some := by
      unfold readOption
      split
      · exact absurd (draft_eq_null_iff.1 ‹_›) hv
      · cases read room (Draft.ofJson v) <;> rfl
    rw [hread]
    cases hx : read room (Draft.ofJson v) with
    | error e =>
      constructor
      · intro heq
        cases heq
      · intro hmeans
        cases hmeans with
        | null => exact absurd rfl hv
        | given _ hy => rw [(h v _ room hroom).2 hy] at hx; cases hx
    | ok y =>
      constructor
      · intro heq
        obtain rfl : some y = x := by simpa [Except.map] using heq
        exact .given hv ((h v y room hroom).1 hx)
      · intro hmeans
        cases hmeans with
        | null => exact absurd rfl hv
        | given _ hz => rw [(h v _ room hroom).2 hz] at hx; cases hx; rfl

/-! ## Arrays and objects of any content -/

theorem readEach_eq_ok_iff {read : Draft → Except Misfit α} {means : Json → α → Prop}
    {items : List Json} (h : ∀ v ∈ items, ∀ x, read (Draft.ofJson v) = .ok x ↔ means v x)
    {xs : List α} :
    readEach read (Draft.ofJsonItems items) = .ok xs ↔ List.Forall₂ means items xs := by
  induction items generalizing xs with
  | nil => cases xs <;> simp [Draft.ofJsonItems, readEach]
  | cons v rest ih =>
    obtain ⟨hv, hrest⟩ := List.forall_mem_cons.1 h
    rw [Draft.ofJsonItems, readEach, List.forall₂_cons_left_iff]
    simp only [← hv, ← ih hrest]
    cases read (Draft.ofJson v) with
    | error e => simp
    | ok y => cases readEach read (Draft.ofJsonItems rest) <;> simp [eq_comm]

theorem decides_list {read : Reader α} {means : Json → α → Prop} (h : Decides read means) :
    Decides (readList read) (EachOf means) := by
  intro v xs room hroom
  cases v with
  | array items =>
    rw [depth] at hroom
    have hitems : ∀ w ∈ items, ∀ x,
        read (room - 1) (Draft.ofJson w) = .ok x ↔ means w x := fun w hw x =>
      h w x (room - 1) (by have := depth_le_of_mem hw; omega)
    simp only [Draft.ofJson, readList, if_neg (show ¬ room ≤ 1 by omega), noFlaw, EachOf,
      Json.array.injEq, exists_eq_left']
    rw [← readEach_eq_ok_iff hitems]
    cases readEach (read (room - 1)) (Draft.ofJsonItems items) <;> simp
  | _ => simp [Draft.ofJson, readList, EachOf, refuse_ne_ok]

mutual

/-- The draft of a plain value can be read as a plain value. -/
theorem toJson_ofJson_ok (v : Json) (room : Nat) (h : v.depth + 2 ≤ room) :
    ∃ w, (Draft.ofJson v).toJson room = .ok w := by
  cases v with
  | array items =>
    rw [depth] at h
    obtain ⟨ws, hws⟩ := toJsonItems_ofJson_ok items (room - 1) (by omega)
    exact ⟨.array ws, by simp [Draft.ofJson, Draft.toJson, if_neg (show ¬ room ≤ 1 by omega), hws]⟩
  | object fields =>
    rw [depth] at h
    obtain ⟨ws, hws⟩ := toJsonFields_ofJson_ok fields [] (room - 1) (by omega)
    exact ⟨.object ws, by simp [Draft.ofJson, Draft.toJson, if_neg (show ¬ room ≤ 1 by omega), hws]⟩
  | _ => exact ⟨_, rfl⟩

theorem toJsonItems_ofJson_ok (items : List Json) (room : Nat) (h : depthItems items + 2 ≤ room) :
    ∃ ws, Draft.toJsonItems room (Draft.ofJsonItems items) = .ok ws := by
  cases items with
  | nil => exact ⟨[], rfl⟩
  | cons v rest =>
    rw [depthItems] at h
    obtain ⟨w, hw⟩ := toJson_ofJson_ok v room (by omega)
    obtain ⟨ws, hws⟩ := toJsonItems_ofJson_ok rest room (by omega)
    exact ⟨w :: ws, by simp [Draft.ofJsonItems, Draft.toJsonItems, hw, hws]⟩

theorem toJsonFields_ofJson_ok (fields seen : List (String × Json)) (room : Nat)
    (h : depthFields fields + 2 ≤ room) :
    ∃ ws, Draft.toJsonFields room seen (Draft.ofJsonFields fields) = .ok ws := by
  cases fields with
  | nil => exact ⟨seen, rfl⟩
  | cons entry rest =>
    obtain ⟨name, v⟩ := entry
    rw [depthFields] at h
    obtain ⟨w, hw⟩ := toJson_ofJson_ok v room (by omega)
    obtain ⟨ws, hws⟩ := toJsonFields_ofJson_ok rest (Fields.insert name w seen) room (by omega)
    exact ⟨ws, by simp [Draft.ofJsonFields, Draft.toJsonFields, hw, hws]⟩

end

/-- A value is an object, or null. -/
def IsMapOrNull (v : Json) : Prop :=
  v = .null ∨ ∃ fields, v = .object fields

theorem accepts_optionMap : Accepts (readOption readMap) IsMapOrNull := by
  intro v room hroom
  cases v with
  | object fields =>
    obtain ⟨w, hw⟩ := toJson_ofJson_ok (.object fields) room hroom
    refine ⟨fun _ => .inr ⟨fields, rfl⟩, fun _ => ?_⟩
    simp only [Draft.ofJson] at hw
    cases w <;> simp [Draft.ofJson, readOption, readMap, hw]
  | number n => cases n <;> simp [Draft.ofJson, readOption, readMap, IsMapOrNull, refuse]
  | _ => simp [Draft.ofJson, readOption, readMap, IsMapOrNull, refuse]

/-! ## How a structure is written -/

/-- A value is a structure of a shape, written as an object or as an array: `members` are
    its fields with their values. An object has no other members, and no field twice; an
    array has the fields in order, and may end early if what it leaves out has defaults. -/
inductive Spelled (shape : List (String × Absence)) : Json → List (String × Json) → Prop
  | object {members : List (String × Json)} (hnodup : (Fields.names members).Nodup)
      (hknown : ∀ name ∈ Fields.names members, name ∈ shape.map Prod.fst) :
      Spelled shape (.object members) members
  | array {items : List Json} (hlength : items.length ≤ shape.length)
      (hleft : ∀ field ∈ shape.drop items.length, field.2 = .defaulted) :
      Spelled shape (.array items) ((shape.map Prod.fst).zip items)

/-- A value is not there and has a default, or means something. -/
inductive Defaulted (default : α) (means : Json → α → Prop) : Option Json → α → Prop
  | absent : Defaulted default means none default
  | given {v : Json} {x : α} (h : means v x) : Defaulted default means (some v) x

/-- A value is not there or null, or means something. -/
def Optional (means : Json → α → Prop) : Option Json → Option α → Prop :=
  Defaulted none (OrNull means)

/-! ## Structures and their parts -/

/-- A field of a structure with the part of the structure it is about: what a value of the
    field means for that part, and how the part is taken and put. -/
structure Aspect (σ : Type) where
  {part : Type}
  field : Field σ
  means : Json → part → Prop
  get : σ → part
  put : part → σ → σ
  aliases : field.aliases = []
  absence : field.absence ≠ .required
  reads : ∀ (v : Json) (s t : σ) (room : Nat), v.depth + 2 ≤ room →
    (field.read room (Draft.ofJson v) s = .ok t ↔ ∃ x, means v x ∧ t = put x s)
  get_put : ∀ (x : part) (s : σ), get (put x s) = x

/-- The name of the field. -/
def Aspect.name (a : Aspect σ) : String :=
  a.field.name

/-- The field as a shape has it. -/
def Aspect.slot (a : Aspect σ) : String × Absence :=
  (a.field.name, a.field.absence)

/-- The aspect of a field whose value is read and then put into the structure. -/
def Aspect.of (name : String) (absence : Absence) (habsence : absence ≠ .required)
    {read : Reader α} {means : Json → α → Prop} (h : Decides read means) (get : σ → α)
    (put : α → σ → σ) (get_put : ∀ (x : α) (s : σ), get (put x s) = x) : Aspect σ where
  field := .of name absence read put
  means := means
  get := get
  put := put
  aliases := rfl
  absence := habsence
  reads v s t room hroom := by
    simp only [Field.of, ← h v _ room hroom]
    cases read room (Draft.ofJson v) with
    | error e => simp
    | ok x => simp [eq_comm]
  get_put := get_put

/-- The aspect of a field of which only the shape is looked at. -/
def Aspect.ignored (name : String) (absence : Absence) (habsence : absence ≠ .required)
    {read : Reader α} {fits : Json → Prop} (h : Accepts read fits) : Aspect σ where
  part := Unit
  field := .of name absence read fun _ s => s
  means v _ := fits v
  get _ := ()
  put _ s := s
  aliases := rfl
  absence := habsence
  reads v s t room hroom := by
    simp only [Field.of, ← h v room hroom]
    cases read room (Draft.ofJson v) with
    | error e => simp
    | ok x => simp [eq_comm]
  get_put _ _ := rfl

/-- Aspects that cover a structure, each a part of its own. -/
structure Covers (aspects : List (Aspect σ)) : Prop where
  names : (aspects.map Aspect.name).Nodup
  apart : ∀ a ∈ aspects, ∀ b ∈ aspects, a.name ≠ b.name → ∀ x s, b.get (a.put x s) = b.get s
  ext : ∀ s t : σ, (∀ a ∈ aspects, a.get s = a.get t) → s = t

/-- A structure has in each part what the member of its field means, and what `start` has
    where there is no such member. -/
def Bears (aspects : List (Aspect σ)) (start : σ) (members : List (String × Json)) (s : σ) :
    Prop :=
  ∀ a ∈ aspects, Defaulted (a.get start) a.means (Fields.get? a.name members) (a.get s)

theorem defaulted_none_iff {default : α} {means : Json → α → Prop} {x : α} :
    Defaulted default means none x ↔ x = default := by
  constructor
  · rintro ⟨⟩
    rfl
  · rintro rfl
    exact .absent

theorem defaulted_some_iff {default : α} {means : Json → α → Prop} {v : Json} {x : α} :
    Defaulted default means (some v) x ↔ means v x := by
  constructor
  · intro h
    cases h with
    | given h => exact h
  · exact .given

section Parts

variable {aspects : List (Aspect σ)} (covers : Covers aspects) {start s t : σ}

include covers

theorem bears_nil_iff : Bears aspects start [] s ↔ s = start := by
  constructor
  · intro h
    exact covers.ext s start fun a ha => defaulted_none_iff.1 (h a ha)
  · rintro rfl a _
    exact .absent

theorem Covers.eq_of_name {a b : Aspect σ} (ha : a ∈ aspects) (hb : b ∈ aspects)
    (h : a.name = b.name) : a = b :=
  List.inj_on_of_nodup_map covers.names ha hb h

/-- The member in front is read into its part, and no later member is about that part. -/
theorem bears_cons_iff {a : Aspect σ} (ha : a ∈ aspects) {w : Json} {rest : List (String × Json)}
    (hrest : a.name ∉ Fields.names rest) :
    Bears aspects start ((a.name, w) :: rest) s ↔
      ∃ x, a.means w x ∧ Bears aspects (a.put x start) rest s := by
  have hnone : Fields.get? a.name rest = none := Fields.get?_eq_none_iff.2 hrest
  constructor
  · intro h
    have hmeans : a.means w (a.get s) := by
      have hself := h a ha
      rwa [Fields.get?_cons, if_pos rfl, defaulted_some_iff] at hself
    refine ⟨a.get s, hmeans, fun b hb => ?_⟩
    -- The part of `a` is settled by this member, and the other parts do not see it.
    by_cases hname : a.name = b.name
    · obtain rfl := covers.eq_of_name ha hb hname
      rw [hnone, a.get_put]
      exact .absent
    · have hother := h b hb
      rw [Fields.get?_cons, if_neg hname] at hother
      rwa [covers.apart a ha b hb hname]
  · rintro ⟨x, hmeans, h⟩ b hb
    have hb' := h b hb
    by_cases hname : a.name = b.name
    · obtain rfl := covers.eq_of_name ha hb hname
      rw [hnone, defaulted_none_iff, a.get_put] at hb'
      rw [Fields.get?_cons, if_pos rfl, hb']
      exact .given hmeans
    · rw [covers.apart a ha b hb hname] at hb'
      rwa [Fields.get?_cons, if_neg hname]

/-! ## Reading a structure -/

variable {layout : Layout σ} (hfields : layout.fields = aspects.map Aspect.field)

include hfields

theorem Layout.field?_eq {a : Aspect σ} (ha : a ∈ aspects) :
    layout.field? a.name = some a.field := by
  -- Without aliases a field answers to its own name only.
  have answers : ∀ b : Aspect σ,
      (b.field.name == a.name || b.field.aliases.contains a.name) = true ↔ b.name = a.name :=
    fun b => by simp [b.aliases, Aspect.name]
  rw [Layout.field?, hfields]
  cases hfound : (aspects.map Aspect.field).find? fun f =>
      f.name == a.name || f.aliases.contains a.name with
  | none =>
    have hnot := List.find?_eq_none.1 hfound a.field (List.mem_map_of_mem ha)
    exact absurd ((answers a).2 rfl) hnot
  | some f =>
    obtain ⟨b, hb, rfl⟩ := List.mem_map.1 (List.mem_of_find?_eq_some hfound)
    have hanswers := List.find?_some hfound
    have hname : b.name = a.name := (answers b).1 hanswers
    rw [covers.eq_of_name hb ha hname]

omit covers in
theorem Layout.field?_eq_none {name : String} (h : name ∉ aspects.map Aspect.name) :
    layout.field? name = none := by
  rw [Layout.field?, hfields, List.find?_eq_none]
  rintro f hf
  obtain ⟨a, ha, rfl⟩ := List.mem_map.1 hf
  have hne : a.field.name ≠ name := fun heq => h (List.mem_map.2 ⟨a, ha, heq⟩)
  simp [hne, a.aliases]

/-- A field in front is read into its part if it was not met before. -/
theorem Layout.readMembers_cons_eq_ok_iff {a : Aspect σ} (ha : a ∈ aspects) {room : Nat}
    {w : Json} (hroom : w.depth + 2 ≤ room) {rest : List (String × Draft)} {seen : List String}
    {out : List String × σ} :
    layout.readMembers room ((a.name, Draft.ofJson w) :: rest) seen start = .ok out ↔
      a.name ∉ seen ∧ ∃ x, a.means w x ∧
        layout.readMembers room rest (a.name :: seen) (a.put x start) = .ok out := by
  rw [Layout.readMembers, Layout.field?_eq covers hfields ha]
  change (if seen.contains a.name then _ else _) = _ ↔ _
  by_cases hseen : a.name ∈ seen
  · simp [hseen]
  rw [if_neg (by simpa using hseen)]
  constructor
  · intro hread
    cases hfirst : a.field.read room (Draft.ofJson w) start with
    | error e => simp [hfirst] at hread
    | ok next =>
      obtain ⟨x, hmeans, rfl⟩ := (a.reads w start next room hroom).1 hfirst
      rw [hfirst] at hread
      exact ⟨hseen, x, hmeans, hread⟩
  · rintro ⟨_, x, hmeans, hrest⟩
    rw [(a.reads w start _ room hroom).2 ⟨x, hmeans, rfl⟩]
    exact hrest

/-- Reading the members of an object: their names are fields that were not met before, and
    each is read into its part. -/
theorem Layout.readMembers_eq_ok_iff (hclosed : layout.closed = true) {room : Nat}
    {members : List (String × Json)} (hroom : depthFields members + 2 ≤ room)
    {seen seen' : List String} :
    layout.readMembers room (Draft.ofJsonFields members) seen start = .ok (seen', s) ↔
      ((Fields.names members).Nodup ∧ (Fields.names members).Disjoint seen ∧
        Fields.names members ⊆ aspects.map Aspect.name) ∧
      seen' = (Fields.names members).reverse ++ seen ∧ Bears aspects start members s := by
  -- From member to member `seen` gets the name and `start` what was read.
  induction members generalizing seen start with
  | nil =>
    simp [Draft.ofJsonFields, Layout.readMembers, bears_nil_iff covers, eq_comm]
  | cons entry rest ih =>
    obtain ⟨name, w⟩ := entry
    rw [depthFields] at hroom
    rw [Draft.ofJsonFields, Fields.names_cons, List.nodup_cons, List.disjoint_cons_left,
      List.cons_subset, List.reverse_cons, List.append_assoc, List.singleton_append]
    by_cases hname : name ∈ aspects.map Aspect.name
    · obtain ⟨a, ha, rfl⟩ := List.mem_map.1 hname
      rw [Layout.readMembers_cons_eq_ok_iff covers hfields ha (by omega)]
      constructor
      · rintro ⟨hseen, x, hmeans, hread⟩
        obtain ⟨⟨hnodup, hdisjoint, hknown⟩, hseen', hbears⟩ := (ih (by omega)).1 hread
        obtain ⟨hfirst, hdisjoint⟩ := List.disjoint_cons_right.1 hdisjoint
        exact ⟨⟨⟨hfirst, hnodup⟩, ⟨hseen, hdisjoint⟩, hname, hknown⟩, hseen',
          (bears_cons_iff covers ha hfirst).2 ⟨x, hmeans, hbears⟩⟩
      · rintro ⟨⟨⟨hfirst, hnodup⟩, ⟨hseen, hdisjoint⟩, -, hknown⟩, hseen', hbears⟩
        obtain ⟨x, hmeans, hbears⟩ := (bears_cons_iff covers ha hfirst).1 hbears
        exact ⟨hseen, x, hmeans, (ih (by omega)).2
          ⟨⟨hnodup, List.disjoint_cons_right.2 ⟨hfirst, hdisjoint⟩, hknown⟩, hseen', hbears⟩⟩
    · rw [Layout.readMembers, Layout.field?_eq_none hfields hname]
      simp only [hclosed, if_true, reduceCtorEq, false_iff]
      exact fun h => hname h.1.2.2.1

omit hfields in
/-- Reading the items of an array: there is a field for each, what is left out has a
    default, and each is read into its part. -/
theorem Layout.readInOrder_eq_ok_iff {room count index : Nat} {rest : List (Aspect σ)}
    (hrest : rest <:+ aspects) {items : List Json} (hroom : depthItems items + 2 ≤ room) :
    layout.readInOrder .value room count none index (rest.map Aspect.field)
        (Draft.ofJsonItems items) start = .ok s ↔
      items.length ≤ rest.length ∧
      (∀ a ∈ rest.drop items.length, a.field.absence = .defaulted) ∧
      Bears aspects start ((rest.map Aspect.name).zip items) s := by
  -- On the fields that are left; an item goes to the first of them.
  induction rest generalizing items start index with
  | nil =>
    cases items with
    | nil => simp [Draft.ofJsonItems, Layout.readInOrder, noFlaw, bears_nil_iff covers, eq_comm]
    | cons w items => simp [Draft.ofJsonItems, Layout.readInOrder]
  | cons a rest ih =>
    have ha : a ∈ aspects := hrest.subset List.mem_cons_self
    have htail : rest <:+ aspects := (List.suffix_cons a rest).trans hrest
    cases items with
    | nil =>
      -- The items have run out before the fields: what is left must have defaults.
      have hothers : layout.readInOrder .value room count none (index + 1)
          (rest.map Aspect.field) [] start = .ok s ↔
            (∀ b ∈ rest, b.field.absence = .defaulted) ∧ Bears aspects start [] s := by
        have htail := @ih start (index + 1) htail [] hroom
        rwa [List.zip_nil_right, List.length_nil, List.drop_zero, Draft.ofJsonItems,
          and_iff_right (Nat.zero_le _)] at htail
      simp only [Draft.ofJsonItems, List.map_cons, Layout.readInOrder, noFlaw, List.zip_nil_right,
        List.length_nil, List.drop_zero, Nat.zero_le, true_and, List.forall_mem_cons]
      split
      · next hdefault => simp [hothers, hdefault]
      · next hdefault => simp [hdefault]
    | cons w items =>
      rw [depthItems] at hroom
      have hfirst : a.name ∉ Fields.names ((rest.map Aspect.name).zip items) := fun hmem => by
        obtain ⟨entry, hentry, heq⟩ := List.mem_map.1 hmem
        have hnodup : ((a :: rest).map Aspect.name).Nodup :=
          covers.names.sublist (hrest.sublist.map _)
        exact (List.nodup_cons.1 hnodup).1 (heq ▸ (List.of_mem_zip hentry).1)
      simp only [Draft.ofJsonItems, List.map_cons, Layout.readInOrder, List.zip_cons_cons,
        List.length_cons, List.drop_succ_cons, Nat.add_le_add_iff_right]
      rw [bears_cons_iff covers ha hfirst]
      constructor
      · intro hread
        cases hnext : a.field.read room (Draft.ofJson w) start with
        | error e => simp [hnext] at hread
        | ok next =>
          obtain ⟨x, hmeans, rfl⟩ := (a.reads w start next room (by omega)).1 hnext
          rw [hnext] at hread
          obtain ⟨hlength, hleft, hbears⟩ := (ih htail (by omega)).1 hread
          exact ⟨hlength, hleft, x, hmeans, hbears⟩
      · rintro ⟨hlength, hleft, x, hmeans, hbears⟩
        rw [(a.reads w start _ room (by omega)).2 ⟨x, hmeans, rfl⟩]
        exact (ih htail (by omega)).2 ⟨hlength, hleft, hbears⟩

omit covers in
theorem Layout.missing?_eq_none (seen : List String) : layout.missing? seen = none := by
  rw [Layout.missing?, hfields, Option.map_eq_none_iff, List.find?_eq_none]
  intro f hf
  obtain ⟨a, _, rfl⟩ := List.mem_map.1 hf
  simp [a.absence]

omit covers hfields in
theorem map_fst_slot : (aspects.map Aspect.slot).map Prod.fst = aspects.map Aspect.name := by
  rw [List.map_map]
  rfl

/-- A closed layout takes exactly the values that are spelled in its shape and whose
    members mean something. -/
theorem Layout.decides (hclosed : layout.closed = true) (start : σ) :
    Decides (layout.read .value start) fun v s =>
      ∃ members, Spelled (aspects.map Aspect.slot) v members ∧ Bears aspects start members s := by
  intro v s room hroom
  cases v with
  | object fields =>
    rw [depth] at hroom
    have hmembers : ∀ seen',
        layout.readMembers (room - 1) (Draft.ofJsonFields fields) [] start = .ok (seen', s) ↔
          ((Fields.names fields).Nodup ∧ (Fields.names fields).Disjoint [] ∧
            Fields.names fields ⊆ aspects.map Aspect.name) ∧
          seen' = (Fields.names fields).reverse ++ [] ∧ Bears aspects start fields s :=
      fun seen' => Layout.readMembers_eq_ok_iff covers hfields hclosed (by omega)
    simp only [Draft.ofJson, Layout.read, if_neg (show ¬ room ≤ 1 by omega), noFlaw,
      Layout.missing?_eq_none hfields]
    constructor
    · intro hread
      cases hfirst : layout.readMembers (room - 1) (Draft.ofJsonFields fields) [] start with
      | error e => simp [hfirst] at hread
      | ok out =>
        obtain ⟨seen', t⟩ := out
        obtain rfl : t = s := by simpa [hfirst] using hread
        obtain ⟨⟨hnodup, -, hknown⟩, -, hbears⟩ := (hmembers seen').1 hfirst
        exact ⟨fields, .object hnodup (map_fst_slot ▸ hknown), hbears⟩
    · rintro ⟨members, hspelled, hbears⟩
      cases hspelled with
      | object hnodup hknown =>
        have hknown : Fields.names fields ⊆ aspects.map Aspect.name := map_fst_slot ▸ hknown
        rw [(hmembers _).2 ⟨⟨hnodup, List.disjoint_nil_right _, hknown⟩, rfl, hbears⟩]
  | array items =>
    rw [depth] at hroom
    simp only [Draft.ofJson, Layout.read, if_neg (show ¬ room ≤ 1 by omega), hfields]
    rw [Layout.readInOrder_eq_ok_iff covers (List.suffix_refl aspects) (by omega)]
    constructor
    · rintro ⟨hlength, hleft, hbears⟩
      refine ⟨_, .array (by simpa using hlength) ?_, map_fst_slot ▸ hbears⟩
      rw [← List.map_drop]
      exact List.forall_mem_map.2 hleft
    · rintro ⟨members, hspelled, hbears⟩
      cases hspelled with
      | array hlength hleft =>
        rw [← List.map_drop] at hleft
        exact ⟨by simpa using hlength, List.forall_mem_map.1 hleft, map_fst_slot ▸ hbears⟩
  | _ =>
    refine ⟨fun hread => ?_, fun ⟨members, hspelled, _⟩ => nomatch hspelled⟩
    simp [Draft.ofJson, Layout.read, refuse_ne_ok] at hread

end Parts

end Rubric.Json
