/-
  Rubric.Json.Shape

  Reading drafts as values of a known shape.

  A reader takes a draft from the front: the first thing that does not fit
  decides the answer, be it a value of the wrong type or a mistake of the text.
  A structure may be written as an object, whose members come in any order, or
  as an array of its fields in their declared order.
-/
import Rubric.Json.Draft
import Rubric.Text.Quoted

namespace Rubric.Json

/-! ## What can be wrong -/

/-- What was found where something else was wanted. -/
inductive Found where
  | null
  | bool (value : Bool)
  | whole (text : String)
  /-- A whole number of more than 64 bits, with the type that holds it. -/
  | wide (text type : String)
  | real (text : String)
  | string (value : String)
  | sequence
  | map
deriving DecidableEq, Repr, Inhabited

/-- How a message names what was found. -/
def Found.toText : Found → String
  | .null => "null"
  | .bool b => s!"boolean `{b}`"
  | .whole n => s!"integer `{n}`"
  | .wide n type => s!"integer `{n}` as {type}"
  | .real x => s!"floating point `{x}`"
  | .string s => "string " ++ Text.quoted s
  | .sequence => "sequence"
  | .map => "map"

/-- Well-formed data that is not of the shape it should be. -/
inductive Mismatch where
  | type (found : Found) (wanted : String)
  | value (found : Found) (wanted : String)
  | length (count : Nat) (wanted : String)
  | missing (field : String)
  | unknownField (field : String) (known : List String)
  | unknownVariant (variant : String) (known : List String)
  | duplicate (field : String)
deriving DecidableEq, Repr, Inhabited

/-- The alternatives of a message: two with `or`, more as a list. -/
def alternatives : List String → String
  | [a] => s!"`{a}`"
  | [a, b] => s!"`{a}` or `{b}`"
  | names => "one of " ++ String.intercalate ", " (names.map fun n => s!"`{n}`")

/-- The text of a mismatch. -/
def Mismatch.toText : Mismatch → String
  | .type found wanted => s!"invalid type: {found.toText}, expected {wanted}"
  | .value found wanted => s!"invalid value: {found.toText}, expected {wanted}"
  | .length count wanted => s!"invalid length {count}, expected {wanted}"
  | .missing field => s!"missing field `{field}`"
  | .unknownField field [] => s!"unknown field `{field}`, there are no fields"
  | .unknownField field known => s!"unknown field `{field}`, expected {alternatives known}"
  | .unknownVariant variant known => s!"unknown variant `{variant}`, expected {alternatives known}"
  | .duplicate field => s!"duplicate field `{field}`"

/-- Why a draft cannot be read as wanted. -/
inductive Misfit where
  /-- The text itself goes wrong here. -/
  | flaw (flaw : Flaw)
  | mismatch (mismatch : Mismatch)
deriving DecidableEq, Repr, Inhabited

/-- Where a draft comes from. The two differ in what a superfluous item of an
    array means: in text it is a mistake of the text, in a value one of shape. -/
inductive Origin where
  | text
  | value
deriving DecidableEq, Repr, Inhabited

/-- A reader of values; the number is the nesting that is still allowed. -/
abbrev Reader (α : Type) := Nat → Draft → Except Misfit α

/-- A draft of another shape than wanted. -/
def refuse {α : Type} (wanted : String) : Draft → Except Misfit α
  | .null => .error (.mismatch (.type .null wanted))
  | .bool b => .error (.mismatch (.type (.bool b) wanted))
  | .number (some (.real x)) => .error (.mismatch (.type (.real x.toText) wanted))
  | .number (some n) => .error (.mismatch (.type (.whole n.toText) wanted))
  | .number none => .error (.flaw .malformed)
  | .string (some s) => .error (.mismatch (.type (.string s) wanted))
  | .string none => .error (.flaw .malformed)
  | .array _ _ => .error (.mismatch (.type .sequence wanted))
  | .object _ _ => .error (.mismatch (.type .map wanted))
  | .broken flaw => .error (.flaw flaw)

/-- A mistake that ends a list of items or members, if there is one. -/
def noFlaw : Option Flaw → Except Misfit Unit
  | none => .ok ()
  | some flaw => .error (.flaw flaw)

/-! ## Simple shapes -/

/-- Reads a string. -/
def readText : Reader String := fun _ draft =>
  match draft with
  | .string (some s) => .ok s
  | d => refuse "a string" d

/-- Reads a truth value. -/
def readBool : Reader Bool := fun _ draft =>
  match draft with
  | .bool b => .ok b
  | d => refuse "a boolean" d

/-- Reads a whole number below `2 ^ bits`; `name` is what messages call the type. -/
def readUnsigned (name : String) (bits : Nat) : Reader Nat := fun _ draft =>
  match draft with
  | .number (some (.natural n)) =>
    if n < Nat.pow 2 bits then .ok n else .error (.mismatch (.value (.whole (toString n)) name))
  | .number (some (.negative n)) =>
    .error (.mismatch (.value (.whole (Number.negative n).toText) name))
  | d => refuse name d

/-- Reads a count or a coordinate. -/
def readSize : Reader Nat := readUnsigned "usize" 64

/-- Reads a value that may be null. -/
def readOption {α : Type} (read : Reader α) : Reader (Option α) := fun room draft =>
  match draft with
  | .null => .ok none
  | d =>
    match read room d with
    | .ok x => .ok (some x)
    | .error e => .error e

/-- Reads items one after another. -/
def readEach {α : Type} (read : Draft → Except Misfit α) : List Draft → Except Misfit (List α)
  | [] => .ok []
  | d :: ds =>
    match read d with
    | .error e => .error e
    | .ok x =>
      match readEach read ds with
      | .error e => .error e
      | .ok xs => .ok (x :: xs)

/-- Reads an array. -/
def readList {α : Type} (read : Reader α) : Reader (List α) := fun room draft =>
  match draft with
  | .array items flaw =>
    if room ≤ 1 then .error (.flaw .malformed)
    else
      match readEach (read (room - 1)) items with
      | .error e => .error e
      | .ok xs =>
        match noFlaw flaw with
        | .error e => .error e
        | .ok _ => .ok xs
  | d => refuse "a sequence" d

/-- Reads an object whose members have arbitrary names and plain values. -/
def readMap : Reader (List (String × Json)) := fun room draft =>
  match draft with
  | .object fields flaw =>
    match (Draft.object fields flaw).toJson room with
    | .ok (.object fields) => .ok fields
    | .ok _ => .ok []
    | .error e => .error (.flaw e)
  | d => refuse "a map" d

/-! ## Passing over values -/

mutual

/-- The first mistake in a value that is not needed. Numbers that are too large
    and halves of surrogate pairs are no mistake there. -/
def skip : Draft → Except Misfit Unit
  | .array items flaw =>
    match skipItems items with
    | .error e => .error e
    | .ok _ => noFlaw flaw
  | .object fields flaw =>
    match skipFields fields with
    | .error e => .error e
    | .ok _ => noFlaw flaw
  | .broken flaw => .error (.flaw flaw)
  | _ => .ok ()

/-- The first mistake among items that are not needed. -/
def skipItems : List Draft → Except Misfit Unit
  | [] => .ok ()
  | d :: ds =>
    match skip d with
    | .error e => .error e
    | .ok _ => skipItems ds

/-- The first mistake among members that are not needed. -/
def skipFields : List (String × Draft) → Except Misfit Unit
  | [] => .ok ()
  | (_, d) :: ds =>
    match skip d with
    | .error e => .error e
    | .ok _ => skipFields ds

end

/-! ## Structures -/

/-- What it means that a field is not there. -/
inductive Absence where
  /-- It has to be there. -/
  | required
  /-- It may be left out of an object, but not out of an array. -/
  | omittable
  /-- It may be left out. -/
  | defaulted
deriving DecidableEq, Repr, Inhabited

/-- A field of a structure of type `σ`: its name, further names that it answers
    to, and how its value is read into the structure. -/
structure Field (σ : Type) where
  name : String
  aliases : List String := []
  absence : Absence := .required
  read : Nat → Draft → σ → Except Misfit σ

/-- A field whose value is read and then put into the structure. -/
def Field.of {σ α : Type} (name : String) (absence : Absence) (read : Reader α)
    (put : α → σ → σ) (aliases : List String := []) : Field σ :=
  ⟨name, aliases, absence, fun room draft s =>
    match read room draft with
    | .ok x => .ok (put x s)
    | .error e => .error e⟩

/-- How a structure is read: its name in messages, its fields in declared order,
    and whether an object may have members besides them. -/
structure Layout (σ : Type) where
  name : String
  fields : List (Field σ)
  closed : Bool := false

/-- The field that answers to a name. -/
def Layout.field? {σ : Type} (layout : Layout σ) (name : String) : Option (Field σ) :=
  layout.fields.find? fun f => f.name == name || f.aliases.contains name

/-- What messages call the structure with all its fields. -/
def Layout.full {σ : Type} (layout : Layout σ) : String :=
  let count := layout.fields.length
  let noun := if count == 1 then "element" else "elements"
  s!"struct {layout.name} with {count} {noun}"

/-- Reads the members of an object. `seen` are the fields met before. -/
def Layout.readMembers {σ : Type} (layout : Layout σ) (room : Nat) :
    List (String × Draft) → List String → σ → Except Misfit (List String × σ)
  | [], seen, s => .ok (seen, s)
  | (name, draft) :: rest, seen, s =>
    match layout.field? name with
    | some f =>
      if seen.contains f.name then .error (.mismatch (.duplicate f.name))
      else
        match f.read room draft s with
        | .error e => .error e
        | .ok s => Layout.readMembers layout room rest (f.name :: seen) s
    | none =>
      if layout.closed then
        .error (.mismatch (.unknownField name (layout.fields.map Field.name)))
      else
        match skip draft with
        | .error e => .error e
        | .ok _ => Layout.readMembers layout room rest seen s

/-- Reads the items of an array, the first field being number `index`. `count` is
    the number of all items. -/
def Layout.readInOrder {σ : Type} (layout : Layout σ) (origin : Origin) (room count : Nat)
    (flaw : Option Flaw) : (index : Nat) → List (Field σ) → List Draft → σ → Except Misfit σ
  | _, [], [], s =>
    match noFlaw flaw with
    | .error e => .error e
    | .ok _ => .ok s
  | _, [], _ :: _, _ =>
    match origin with
    | .text => .error (.flaw .malformed)
    | .value => .error (.mismatch (.length count "fewer elements in array"))
  | index, f :: fs, draft :: rest, s =>
    match f.read room draft s with
    | .error e => .error e
    | .ok s => layout.readInOrder origin room count flaw (index + 1) fs rest s
  | index, f :: fs, [], s =>
    match noFlaw flaw with
    | .error e => .error e
    | .ok _ =>
      if f.absence = .defaulted then layout.readInOrder origin room count flaw (index + 1) fs [] s
      else .error (.mismatch (.length index layout.full))

/-- The first required field that was not met. -/
def Layout.missing? {σ : Type} (layout : Layout σ) (seen : List String) : Option String :=
  (layout.fields.find? fun f => f.absence == .required && !seen.contains f.name).map Field.name

/-- Reads a structure, starting from the structure of the default values. -/
def Layout.read {σ : Type} (layout : Layout σ) (origin : Origin) (start : σ) : Reader σ :=
  fun room draft =>
    match draft with
    | .object fields flaw =>
      if room ≤ 1 then .error (.flaw .malformed)
      else
        match layout.readMembers (room - 1) fields [] start with
        | .error e => .error e
        | .ok (seen, s) =>
          match noFlaw flaw with
          | .error e => .error e
          | .ok _ =>
            match layout.missing? seen with
            | some name => .error (.mismatch (.missing name))
            | none => .ok s
    | .array items flaw =>
      if room ≤ 1 then .error (.flaw .malformed)
      else layout.readInOrder origin (room - 1) items.length flaw 0 layout.fields items start
    | d => refuse s!"struct {layout.name}" d

/-! ## Named alternatives -/

/-- The alternative of a name. -/
def variant {α : Type} (known : List (String × α)) (name : String) : Except Misfit α :=
  match known.find? fun entry => entry.1 == name with
  | some entry => .ok entry.2
  | none => .error (.mismatch (.unknownVariant name (known.map Prod.fst)))

/-- Reads the null that stands for the content of an alternative without any. -/
def readUnit : Draft → Except Misfit Unit
  | .null => .ok ()
  | d => refuse "unit" d

/-- Reads one of several named alternatives, written as its name or as an object
    that has the name for its only member, with null under it. -/
def readVariant {α : Type} (origin : Origin) (known : List (String × α)) : Reader α :=
  fun room draft =>
    match draft with
    | .string (some s) => variant known s
    | .object fields flaw =>
      match origin with
      | .text =>
        if room ≤ 1 then .error (.flaw .malformed)
        else
          match fields with
          | [] => .error (.flaw (flaw.getD .malformed))
          | (name, content) :: rest =>
            match variant known name with
            | .error e => .error e
            | .ok x =>
              match readUnit content with
              | .error e => .error e
              | .ok _ =>
                match rest, flaw with
                | [], none => .ok x
                | [], some flaw => .error (.flaw flaw)
                | _ :: _, _ => .error (.flaw .malformed)
      | .value =>
        match fields with
        | [(name, content)] =>
          match variant known name with
          | .error e => .error e
          | .ok x =>
            match readUnit content with
            | .error e => .error e
            | .ok _ => .ok x
        | _ => .error (.mismatch (.value .map "map with a single key"))
    | .broken flaw => .error (.flaw flaw)
    | .string none => .error (.flaw .malformed)
    | d =>
      match origin with
      | .text => .error (.flaw .malformed)
      | .value => refuse "string or map" d

/-! ## Whole texts and values -/

/-- Reads a text of which the whole has to fit. -/
def readDocument {α : Type} (read : Reader α) (text : String) : Except Misfit α :=
  let (draft, trailing) := Draft.ofText text
  match read nestingLimit draft with
  | .error e => .error e
  | .ok x =>
    match noFlaw trailing with
    | .error e => .error e
    | .ok _ => .ok x

/-- Reads a value. -/
def readJson {α : Type} (read : Reader α) (value : Json) : Except Misfit α :=
  read (value.depth + 2) (Draft.ofJson value)

end Rubric.Json
