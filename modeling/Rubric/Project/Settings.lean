/-
  Rubric.Project.Settings

  The settings that a project keeps in a file.

  All settings are optional, and no others are known. The first entry that does
  not fit decides what is reported.
-/
import Rubric.Toml.Reader
import Rubric.Failure

namespace Rubric.Project

/-- Where instructions are checked. -/
structure InstructionSettings where
  endpoint : Option String := none
  model : Option String := none
deriving DecidableEq, Repr, Inhabited

/-- The settings of a project. -/
structure Settings where
  templatePath : Option String := none
  template : Option String := none
  timeoutSeconds : Option Nat := none
  instructions : Option InstructionSettings := none
deriving DecidableEq, Repr, Inhabited

namespace Settings

/-- How a value is named where it does not fit. -/
def found : Toml.Value → Json.Found
  | .string s => .string s
  | .integer n =>
    if -Int.pow 2 63 ≤ n && n < Int.pow 2 64 then .whole (toString n)
    else if n < Int.pow 2 127 then .wide (toString n) "i128"
    else .wide (toString n) "u128"
  | .fraction x => .real (x.toText ⟨-400, 400⟩)
  | .special name => .real name
  | .bool b => .bool b
  | .time _ | .table _ _ => .map
  | .array _ | .tables _ => .sequence

/-- A value of another type than wanted. -/
def refuse {α : Type} (wanted : String) (value : Toml.Value) : Except Json.Mismatch α :=
  .error (.type (found value) wanted)

/-- Reads a text. -/
def readText (value : Toml.Value) : Except Json.Mismatch String :=
  match value with
  | .string s => .ok s
  | v => refuse "a string" v

/-- Reads a number of seconds. -/
def readSeconds (value : Toml.Value) : Except Json.Mismatch Nat :=
  match value with
  | .integer n =>
    if 0 ≤ n && n < Int.pow 2 64 then .ok n.toNat
    else if -Int.pow 2 63 ≤ n && n < 0 then .error (.value (.whole (toString n)) "u64")
    else refuse "u64" (.integer n)
  | v => refuse "u64" v

/-- The settings of the instruction checker by name. -/
def readInstruction (name : String) (value : Toml.Value) (s : InstructionSettings) :
    Except Json.Mismatch InstructionSettings :=
  match name with
  | "endpoint" => (readText value).map fun x => { s with endpoint := some x }
  | "model" => (readText value).map fun x => { s with model := some x }
  | name => .error (.unknownField name ["endpoint", "model"])

/-- Reads entries one after another. -/
def readEntries {σ : Type} (read : String → Toml.Value → σ → Except Json.Mismatch σ) :
    Toml.Fields → σ → Except Json.Mismatch σ
  | [], s => .ok s
  | (name, value) :: rest, s =>
    match read name value s with
    | .ok s => readEntries read rest s
    | .error e => .error e

/-- What messages call the settings of the instruction checker. -/
def instructionsName : String := "struct InstructionSettings"

/-- Reads the settings of the instruction checker, by name or in order. -/
def readInstructions (value : Toml.Value) : Except Json.Mismatch InstructionSettings :=
  match value with
  | .table _ fields => readEntries readInstruction fields {}
  | .time text => readEntries readInstruction [(Toml.timeKey, .time text)] {}
  | .array (endpoint :: model :: _) => do
    return ⟨some (← readText endpoint), some (← readText model)⟩
  | .array [endpoint] => do
    let _ ← readText endpoint
    .error (.length 1 (instructionsName ++ " with 2 elements"))
  | .array [] => .error (.length 0 (instructionsName ++ " with 2 elements"))
  | .tables (first :: _) => refuse "a string" (.table .opened first)
  | v => refuse instructionsName v

/-- The settings by name. -/
def readSetting (name : String) (value : Toml.Value) (s : Settings) :
    Except Json.Mismatch Settings :=
  match name with
  | "template_path" => (readText value).map fun x => { s with templatePath := some x }
  | "template" => (readText value).map fun x => { s with template := some x }
  | "timeout_secs" => (readSeconds value).map fun x => { s with timeoutSeconds := some x }
  | "instructions" => (readInstructions value).map fun x => { s with instructions := some x }
  | name =>
    .error (.unknownField name ["template_path", "template", "timeout_secs", "instructions"])

/-- Whether a mismatch is reported by what it is; others count as a mistake of the
    text. -/
def isTold : Json.Mismatch → Bool
  | .type _ _ | .value _ _ | .unknownField _ _ => true
  | _ => false

/-- The settings in the text of a file. -/
def ofText (text : String) : Except Failure Settings :=
  match Toml.parse? text with
  | some (.table _ fields) =>
    match readEntries readSetting fields {} with
    | .ok s => .ok s
    | .error e => .error ⟨[], .toml (if isTold e then some e else none)⟩
  | _ => .error ⟨[], .toml none⟩

end Settings

end Rubric.Project
