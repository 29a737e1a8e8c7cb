/-
  Rubric.Toml.Table

  The values of TOML, and how tables grow.

  A table remembers how it came about, because that decides what may still be
  added to it: a table that was only passed through on the way to another may be
  opened once by a header of its own, dotted keys may go on extending the tables
  they made, and a table in braces is complete.
-/
import Rubric.Json.Basic

namespace Rubric.Toml

/-- How a table came about. -/
inductive Making where
  /-- A header below it passed through. -/
  | passed
  /-- Dotted keys passed through. -/
  | dotted
  /-- A header of its own opened it. -/
  | opened
  /-- It was written in braces. -/
  | braced
deriving DecidableEq, Repr, Inhabited

/-- A value. -/
inductive Value where
  | string (text : String)
  | integer (n : Int)
  | fraction (x : Decimal.Binary64)
  /-- An infinity, or what is no number, by its name. -/
  | special (name : String)
  | bool (value : Bool)
  | time (text : String)
  | array (items : List Value)
  /-- The tables of one name that headers opened one after another. -/
  | tables (items : List (List (String × Value)))
  | table (making : Making) (fields : List (String × Value))
deriving Repr, Inhabited

/-- The entries of a table in the order in which they were made. -/
abbrev Fields := List (String × Value)

namespace Fields

/-- The value under a name. -/
def get? (name : String) (fields : Fields) : Option Value :=
  Rubric.Fields.get? name fields

/-- The entries without that of a name. -/
def remove (name : String) (fields : Fields) : Fields :=
  fields.filter fun f => f.1 != name

/-- Whether a table may be passed through on the way to another. -/
def mayPass (dotted : Bool) : Making → Bool
  | .passed => true
  | .dotted => true
  | .opened => !dotted
  | .braced => false

/-- Changes the last item of a list. -/
def changeLast (change : Fields → Option Fields) : List Fields → Option (List Fields)
  | [] => none
  | [x] => (change x).map fun y => [y]
  | x :: xs => (changeLast change xs).map fun ys => x :: ys

/-- Changes the table at the end of a path. `dotted` says that the path is a
    dotted key, not a header. `change` is given how the table came about and its
    entries. -/
def changeAt (dotted : Bool) (change : Making → Fields → Option Fields) :
    (path : List String) → Making → Fields → Option Fields
  | [], making, fields => change making fields
  | name :: path, _, fields =>
    match get? name fields with
    | none =>
      let making := if dotted then Making.dotted else .passed
      (changeAt dotted change path making []).map fun inner =>
        fields ++ [(name, .table making inner)]
    | some (.table making inner) =>
      if mayPass dotted making then
        (changeAt dotted change path making inner).map fun inner =>
          Rubric.Fields.insert name (.table making inner) fields
      else none
    | some (.tables items) =>
      (changeLast (changeAt dotted change path .opened) items).map fun items =>
        Rubric.Fields.insert name (.tables items) fields
    | some _ => none

/-- Puts a value under a dotted key. The name must be new, and only dotted keys
    add to a table that dotted keys made. -/
def put (path : List String) (name : String) (value : Value) (making : Making)
    (fields : Fields) : Option Fields :=
  changeAt true (fun making inner =>
    if decide (making = .dotted) == path.isEmpty then none
    else if (get? name inner).isSome then none
    else some (inner ++ [(name, value)])) path making fields

/-- Takes the table that a header opens out of the table above it: none if it
    must not be opened, and the entries it has so far otherwise. -/
def takeOpened (name : String) (fields : Fields) : Option (Fields × Fields) :=
  match get? name fields with
  | none => some ([], fields)
  | some (.table .passed inner) => some (inner, remove name fields)
  | some _ => none

/-- Adds a table to those of its name. -/
def addTable (name : String) (entries : Fields) (fields : Fields) : Option Fields :=
  match get? name fields with
  | none => some (fields ++ [(name, .tables [entries])])
  | some (.tables items) => some (Rubric.Fields.insert name (.tables (items ++ [entries])) fields)
  | some _ => none

end Fields

/-! ## As JSON -/

/-- The name under which a date or a time stands in the object it becomes. -/
def timeKey : String := "$__toml_private_datetime"

/-- A whole number as a value, unless it needs more than 64 bits. -/
def wholeNumber? (n : Int) : Option Json :=
  if 0 ≤ n then
    if n.toNat ≤ Number.maxNatural then some (.number (.natural n.toNat)) else none
  else if (-n).toNat ≤ Number.maxNegative then some (.number (.negative (-n).toNat))
  else none

mutual

/-- The JSON value of a value. -/
def Value.toJson? : Value → Option Json
  | .string s => some (.string s)
  | .integer n => wholeNumber? n
  | .fraction x => some (.number (.real x))
  | .special _ => some .null
  | .bool b => some (.bool b)
  | .time text => some (.object [(timeKey, .string text)])
  | .array items => (itemsToJson? items).map .array
  | .tables items => (tablesToJson? items).map .array
  | .table _ fields => (fieldsToJson? fields).map .object

/-- The JSON values of items. -/
def itemsToJson? : List Value → Option (List Json)
  | [] => some []
  | x :: xs =>
    match x.toJson?, itemsToJson? xs with
    | some y, some ys => some (y :: ys)
    | _, _ => none

/-- The JSON values of tables. -/
def tablesToJson? : List (List (String × Value)) → Option (List Json)
  | [] => some []
  | x :: xs =>
    match fieldsToJson? x, tablesToJson? xs with
    | some y, some ys => some (.object y :: ys)
    | _, _ => none

/-- The JSON members of entries. -/
def fieldsToJson? : List (String × Value) → Option (List (String × Json))
  | [] => some []
  | (name, x) :: xs =>
    match x.toJson?, fieldsToJson? xs with
    | some y, some ys => some ((name, y) :: ys)
    | _, _ => none

end

end Rubric.Toml
