/-
  Rubric.Proofs.Template.FirstInvalid

  Which entry the message is about when a template cannot be read.

  A template and the entries of its tables at every depth are the nodes of a tree. A
  node may be invalid in itself, by its name or by its own fields, whatever stands in
  its table. The reader judges a node in itself first, and then the entries of its
  table one after another, each with all that is below it. So it stops at the first
  node in pre-order that is invalid in itself, and the message starts with the dotted
  path of this node.
-/
import Rubric.Proofs.FirstPath
import Rubric.Proofs.Template.Message
import Rubric.Proofs.Template.Reading

namespace Rubric.Schema

open Rubric.Json

variable (regex : Regex.Compiler)

/-! ## The tree of a template -/

/-- A template, or an entry of a table somewhere in one; `above` are the names on the way down
    to it, that of the template first. -/
inductive Node where
  | template (name : String) (value : Json)
  | entry (above : List String) (name : String) (value : Json)

/-- The entries of the table that the value of a field is. -/
def entriesOf : Option Json → List (String × Json)
  | some (.object entries) => entries
  | _ => []

namespace Node

def name : Node → String
  | template name _ => name
  | entry _ name _ => name

/-- The names on the way down to a node, its own name last. -/
def names : Node → List String
  | template name _ => [name]
  | entry above name _ => above ++ [name]

def value : Node → Json
  | template _ value => value
  | entry _ _ value => value

def shape : Node → List (String × Absence)
  | template _ _ => templateShape
  | entry _ _ _ => sectionShape

/-- Where messages put a node. -/
def path (node : Node) : String :=
  "templates." ++ String.intercalate ".sections." node.names

/-- The node of a key with its value in the table of a node. -/
def below (node : Node) (member : String × Json) : Node :=
  entry node.names member.1 member.2

/-- The entries in the table of a node, in source order. -/
def children (node : Node) : List Node :=
  (entriesOf (tableField node.shape node.value)).map node.below

/-- The node at a path of indices below a node, which itself is at the empty path. -/
def at? (node : Node) : List Nat → Option Node
  | [] => some node
  | i :: path => node.children[i]?.bind fun child => child.at? path

/-- The members of a node apart from its table fit. -/
def MembersFit : Node → List (String × Json) → Prop
  | template _ _, members => Permits (Nullable FitsText) (Fields.get? "description" members)
  | entry _ _ _, members => FitsFields regex members

/-- The value of a node has the right members, and these fit. Of a table it only matters that
    it is one. -/
def FieldsFit (node : Node) : Prop :=
  ∃ members, Spelled node.shape node.value members ∧ node.MembersFit regex members ∧
    Permits IsMapOrNull (Fields.get? tableKey members)

/-- The node is valid in itself. -/
structure IsValid (node : Node) : Prop where
  name : isName node.name = true
  fields : node.FieldsFit regex

/-- The failure is what is wrong with the node in itself, and its text starts with the path of
    the node. A name is judged before the fields. -/
inductive IsBlamedBy (node : Node) (e : Failure) : Prop
  | name : isName node.name = false →
      e.chain = [node.path ++ ": name must only contain letters, digits, '-' or '_'"] →
      node.IsBlamedBy e
  | fields : isName node.name = true → ¬ node.FieldsFit regex → PointsInto e node.path →
      node.IsBlamedBy e

/-- Among the nodes below a node, itself included, the one at a path is invalid in itself. -/
def InvalidAt (node : Node) (path : List Nat) : Prop :=
  ∃ x, node.at? path = some x ∧ ¬ x.IsValid regex

/-- The failure is what is wrong with the node at a path. -/
def BlamedAt (node : Node) (path : List Nat) (e : Failure) : Prop :=
  ∃ x, node.at? path = some x ∧ x.IsBlamedBy regex e

variable {regex}

theorem path_template (name : String) (v : Json) :
    (template name v).path = templatePath name := by
  rw [path, names, String.intercalate_singleton]
  rfl

/-- The reader writes the path of an entry behind that of the node whose table it is in. -/
theorem path_below (node : Node) (member : String × Json) :
    (node.below member).path = childPath node.path member.1 := by
  have hnames : node.names ≠ [] := by cases node <;> simp [names]
  rw [path, below, names, String.intercalate_append_of_ne_nil hnames (List.cons_ne_nil _ _),
    String.intercalate_singleton, ← String.append_assoc, ← String.append_assoc]
  rfl

theorem exists_at?_cons_iff {node : Node} {i : Nat} {path : List Nat} {q : Node → Prop} :
    (∃ x, node.at? (i :: path) = some x ∧ q x) ↔
      ∃ child, node.children[i]? = some child ∧ ∃ x, child.at? path = some x ∧ q x := by
  simp only [at?, Option.bind_eq_some_iff]
  constructor
  · rintro ⟨x, ⟨child, hchild, hx⟩, hq⟩
    exact ⟨child, hchild, x, hx, hq⟩
  · rintro ⟨child, hchild, x, hx, hq⟩
    exact ⟨x, ⟨child, hchild, hx⟩, hq⟩

/-- The entries in the table of a node are smaller values, if the node has the right members. -/
theorem sizeOf_value_lt {node child : Node} (hfields : node.FieldsFit regex)
    (hchild : child ∈ node.children) : sizeOf child.value < sizeOf node.value := by
  obtain ⟨members, hspelled, -, -⟩ := hfields
  obtain ⟨member, hmember, rfl⟩ := List.mem_map.1 hchild
  have hkey : tableKey ∈ node.shape.map Prod.fst := by
    cases node with
    | template => exact tableKey_mem_templateShape
    | entry => exact tableKey_mem_sectionShape
  rw [tableField_eq hspelled hkey] at hmember
  unfold entriesOf at hmember
  split at hmember
  next entries htable => exact sizeOf_entry_lt hspelled htable hmember
  next => exact nomatch hmember

end Node

/-! ## What the reader finds wrong -/

/-- The failure of a result, if it is one. -/
def failure? {α : Type} : Except Failure α → Option Failure
  | .ok _ => none
  | .error e => some e

theorem failure?_eq_none_iff {α : Type} {result : Except Failure α} :
    failure? result = none ↔ ∃ x, result = .ok x := by
  cases result <;> simp [failure?]

theorem failure?_eq_some_iff {α : Type} {result : Except Failure α} {e : Failure} :
    failure? result = some e ↔ result = .error e := by
  cases result <;> simp [failure?]

/-- The rule that a value describes, without its table. -/
def ownRule (path : String) (v : Json) : Except Failure Rule :=
  assemble regex path (readAt path (sectionLayout.read .value {}) v) (.ok none)

variable {regex}

/-- The reader comes to the table after all else. -/
theorem failure?_ruleWith (path : String) (v : Json) :
    failure? (ruleWith regex path v)
      = (failure? (ownRule regex path v)).or
          (failure? (tableAt regex path (tableField sectionShape v))) := by
  rw [ruleWith_eq_assemble, ownRule]
  unfold assemble
  cases readAt path (sectionLayout.read .value {}) v with
  | error e => rfl
  | ok entry =>
    dsimp only
    cases entry.toRule regex path with
    | error e => rfl
    | ok rule => cases tableAt regex path (tableField sectionShape v) <;> rfl

theorem failure?_templateWith (name : String) (v : Json) :
    failure? (templateWith regex name v)
      = ((failure? (checkName (templatePath name) name)).or
          (failure? (readAt (templatePath name) (templateLayout.read .value none) v))).or
          (failure? (tableAt regex (templatePath name) (tableField templateShape v))) := by
  rw [templateWith, templateTable_eq]
  cases checkName (templatePath name) name with
  | error e => rfl
  | ok _ =>
    cases readAt (templatePath name) (templateLayout.read .value none) v with
    | error e => rfl
    | ok description =>
      dsimp only
      cases tableAt regex (templatePath name) (tableField templateShape v) <;> rfl

namespace Node

section
variable (regex)

/-- What is found wrong with the fields of a node apart from its table. -/
def fieldsFailure? (node : Node) : Option Failure :=
  match node with
  | template _ v => Schema.failure? (readAt node.path (templateLayout.read .value none) v)
  | entry _ _ v => Schema.failure? (ownRule regex node.path v)

/-- What is found wrong with a node in itself. -/
def ownFailure? (node : Node) : Option Failure :=
  (Schema.failure? (checkName node.path node.name)).or (node.fieldsFailure? regex)

/-- What is found wrong with a node or with one below it. -/
def failure? (node : Node) : Option Failure :=
  match node with
  | template name v => Schema.failure? (templateWith regex name v)
  | entry _ name v =>
    (Schema.failure? (checkName node.path name)).or (Schema.failure? (ruleWith regex node.path v))

end

/-- Which rules are in a table already makes no difference to what is found wrong. -/
theorem failure?_tableInto (node : Node) (table : List (String × Rule))
    (entries : List (String × Json)) :
    Schema.failure? (tableInto regex node.path table entries)
      = (entries.map node.below).findSome? (failure? regex) := by
  induction entries generalizing table with
  | nil =>
    rw [tableInto]
    rfl
  | cons member rest ih =>
    have hmember : (node.below member).failure? regex
        = (Schema.failure? (checkName (childPath node.path member.1) member.1)).or
          (Schema.failure? (ruleWith regex (childPath node.path member.1) member.2)) := by
      rw [← path_below]
      rfl
    rw [tableInto, List.map_cons, List.findSome?_cons, hmember]
    cases checkName (childPath node.path member.1) member.1 with
    | error e => rfl
    | ok _ =>
      cases ruleWith regex (childPath node.path member.1) member.2 with
      | error e => rfl
      | ok rule => exact ih _

theorem failure?_tableAt (node : Node) (found : Option Json) :
    Schema.failure? (tableAt regex node.path found)
      = ((entriesOf found).map node.below).findSome? (failure? regex) := by
  cases found with
  | none => rfl
  | some w =>
    cases w with
    | object entries =>
      have hinto := @failure?_tableInto regex node [] entries
      rw [tableAt, tableOf]
      cases h : tableInto regex node.path [] entries <;> rwa [h] at hinto
    | _ => rfl

/-- A node is judged in itself, and then the entries of its table are. -/
theorem failure?_eq (node : Node) :
    node.failure? regex =
      (node.ownFailure? regex).or (node.children.findSome? (failure? regex)) := by
  rw [children, ← failure?_tableAt]
  cases node with
  | template name v =>
    rw [failure?, ownFailure?, fieldsFailure?, path_template, failure?_templateWith]
    rfl
  | entry above name v =>
    rw [failure?, ownFailure?, fieldsFailure?, failure?_ruleWith, Option.or_assoc]
    rfl

end Node

/-! ## Single nodes -/

theorem checkName_error {path name : String} {e : Failure} (h : checkName path name = .error e) :
    isName name = false ∧
      e.chain = [path ++ ": name must only contain letters, digits, '-' or '_'"] := by
  rw [checkName] at h
  split at h
  next => cases h
  next hname =>
    obtain rfl := Except.error.inj h
    exact ⟨Bool.not_eq_true _ ▸ hname, rfl⟩

theorem ownRule_error {path : String} {v : Json} {e : Failure}
    (h : ownRule regex path v = .error e) : PointsInto e path := by
  rw [ownRule, assemble_none] at h
  cases hread : readAt path (sectionLayout.read .value {}) v with
  | error misfit =>
    rw [hread] at h
    obtain rfl := Except.error.inj h
    exact pointsInto_of_pointsTo (readAt_error hread)
  | ok entry =>
    rw [hread] at h
    exact SectionEntry.toRule_error h

/-- What an entry says without its table makes a rule exactly if its own fields fit. -/
theorem exists_ownRule_iff {path : String} {v : Json} :
    (∃ r, ownRule regex path v = .ok r) ↔
      ∃ members, Spelled sectionShape v members ∧ FitsFields regex members ∧
        Permits IsMapOrNull (Fields.get? tableKey members) := by
  simp only [ownRule, assemble_eq_ok_iff, readAt_eq_ok_iff decides_section,
    ← exists_describesFields_iff _ none]
  constructor
  · rintro ⟨r, e, ⟨members, hspelled, hreads⟩, hmakes, hnone⟩
    obtain ⟨hfields, hpermits⟩ := describesFields_iff.2 ⟨e, hreads, hmakes⟩
    exact ⟨members, hspelled, ⟨r, hfields, (Except.ok.inj hnone).symm⟩, hpermits⟩
  · rintro ⟨members, hspelled, ⟨r, hfields, hnone⟩, hpermits⟩
    obtain ⟨e, hreads, hmakes⟩ := describesFields_iff.1 ⟨hfields, hpermits⟩
    exact ⟨r, e, ⟨members, hspelled, hreads⟩, hmakes, congrArg Except.ok hnone.symm⟩

theorem exists_readTemplate_iff {path : String} {v : Json} :
    (∃ d, readAt path (templateLayout.read .value none) v = .ok d) ↔
      ∃ members, Spelled templateShape v members ∧
        Permits (Nullable FitsText) (Fields.get? "description" members) ∧
        Permits IsMapOrNull (Fields.get? tableKey members) := by
  simp only [readAt_eq_ok_iff decides_template, ← exists_optional_iff exists_isText_iff]
  constructor
  · rintro ⟨d, members, hspelled, hdescription, hpermits⟩
    exact ⟨members, hspelled, ⟨d, hdescription⟩, hpermits⟩
  · rintro ⟨members, hspelled, ⟨d, hdescription⟩, hpermits⟩
    exact ⟨d, members, hspelled, hdescription, hpermits⟩

namespace Node

theorem fieldsFailure?_eq_none_iff (node : Node) :
    node.fieldsFailure? regex = none ↔ node.FieldsFit regex := by
  cases node with
  | template name v => exact failure?_eq_none_iff.trans exists_readTemplate_iff
  | entry above name v => exact failure?_eq_none_iff.trans exists_ownRule_iff

theorem pointsInto_of_fieldsFailure? {node : Node} {e : Failure}
    (h : node.fieldsFailure? regex = some e) : PointsInto e node.path := by
  cases node with
  | template name v => exact pointsInto_of_pointsTo (readAt_error (failure?_eq_some_iff.1 h))
  | entry above name v => exact ownRule_error (failure?_eq_some_iff.1 h)

theorem ownFailure?_eq_none_iff (node : Node) :
    node.ownFailure? regex = none ↔ node.IsValid regex := by
  rw [ownFailure?, Option.or_eq_none_iff, failure?_eq_none_iff, fieldsFailure?_eq_none_iff]
  simp only [checkName_eq_ok_iff, exists_const]
  exact ⟨fun ⟨hname, hfields⟩ => ⟨hname, hfields⟩, fun ⟨hname, hfields⟩ => ⟨hname, hfields⟩⟩

theorem isBlamedBy_of_ownFailure? {node : Node} {e : Failure}
    (h : node.ownFailure? regex = some e) : node.IsBlamedBy regex e := by
  rw [ownFailure?, Option.or_eq_some_iff] at h
  rcases h with hname | ⟨hname, hfields⟩
  · obtain ⟨hinvalid, hchain⟩ := checkName_error (failure?_eq_some_iff.1 hname)
    exact .name hinvalid hchain
  · obtain ⟨u, hok⟩ := failure?_eq_none_iff.1 hname
    refine .fields (checkName_eq_ok_iff.1 hok) ?_ (pointsInto_of_fieldsFailure? hfields)
    rw [← fieldsFailure?_eq_none_iff, hfields]
    exact nofun

/-! ## The first invalid node -/

/-- What is found wrong with a node and all that is below it is what is wrong with the first
    node there that is invalid in itself. -/
theorem failure?_findsFirst (node : Node) :
    FindsFirst (node.InvalidAt regex) (node.BlamedAt regex) (node.failure? regex) := by
  rw [failure?_eq]
  cases hown : node.ownFailure? regex with
  | some e =>
    refine .root ⟨node, rfl, ?_⟩ ⟨node, rfl, isBlamedBy_of_ownFailure? hown⟩
    rw [← ownFailure?_eq_none_iff, hown]
    exact nofun
  | none =>
    have hvalid := (ownFailure?_eq_none_iff node).1 hown
    -- The entries of the table are smaller values, so that the search is known there.
    have hforest := FindsFirst.findSome? fun child hchild =>
      have := sizeOf_value_lt hvalid.fields hchild
      child.failure?_findsFirst
    rw [Option.none_or]
    refine hforest.imp (fun path => ?_) fun path e _ hblamed => ?_
    · cases path with
      | nil =>
        refine iff_of_false id ?_
        rintro ⟨x, hx, hinvalid⟩
        obtain rfl := Option.some.inj hx
        exact hinvalid hvalid
      | cons i path => exact exists_at?_cons_iff.symm
    · cases path with
      | nil => exact absurd hblamed id
      | cons i path => exact exists_at?_cons_iff.2 hblamed
termination_by sizeOf node.value

end Node

/-- **The message names the first invalid node.** Let patterns be compiled in any way. Where a
    template cannot be read, some node of it is invalid in itself, and of the nodes that are,
    the message is about the first in pre-order: its text starts with the dotted path of this
    node. -/
theorem failure_names_first_invalid_node {name : String} {v : Json} {e : Failure}
    (h : templateWith regex name v = .error e) :
    ∃ path node, (Node.template name v).at? path = some node ∧
      IsFirst ((Node.template name v).InvalidAt regex) path ∧ node.IsBlamedBy regex e := by
  have hfinds := @Node.failure?_findsFirst regex (.template name v)
  rw [Node.failure?, h] at hfinds
  obtain ⟨path, hfirst, node, hnode, hblamed⟩ := hfinds
  exact ⟨path, node, hnode, hfirst, hblamed⟩

/-- A template with three invalid entries: `order` and `!` below `steps`, and `end` behind it. -/
def flawedTemplate : Json :=
  .object [("sections", .object [
    ("intro", .object []),
    ("steps", .object [("sections", .object [
      ("first", .object []),
      ("order", .object [("sequence", .array [])]),
      ("!", .object [])])]),
    ("end", .null)])]

/-- The empty sequence of `order` is reported, which comes before the other two. -/
theorem inner_entry_is_named_first :
    let e := Failure.ofText
      "templates.guide.sections.steps.sections.order.sequence: must contain at least one item"
    let regex := Pattern.ofText?
    templateWith regex "guide" flawedTemplate = .error e ∧
      ((Node.template "guide" flawedTemplate).at? [1, 1]).map Node.path
        = some "templates.guide.sections.steps.sections.order" ∧
      ∃ path node, (Node.template "guide" flawedTemplate).at? path = some node ∧
        IsFirst ((Node.template "guide" flawedTemplate).InvalidAt regex) path ∧
        node.IsBlamedBy regex e := by
  intro e regex
  have h : templateWith regex "guide" flawedTemplate = .error e := by rfl
  exact ⟨h, rfl, failure_names_first_invalid_node h⟩

end Rubric.Schema
