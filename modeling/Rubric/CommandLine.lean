/-
  Rubric.CommandLine

  Reading the arguments of a program.

  A program declares its options. An argument that begins with a dash names one or
  more of them; every other argument is the value of the option right before it.
  An option that waits for its value is settled only when the next one is named,
  so that a name nobody knows is reported before a value that is missing.
-/
import Rubric.Project.Config

namespace Rubric.CommandLine

/-- What an option does. -/
inductive Action where
  /-- It takes a text. -/
  | text
  /-- It takes a whole number of 64 bits. -/
  | number
  /-- It takes nothing and is there or not. -/
  | mark
  | help
  | version
deriving DecidableEq, Repr, Inhabited

/-- An option. -/
structure Choice where
  name : String
  short : Option Char := none
  action : Action := .text
  required : Bool := false
deriving DecidableEq, Repr, Inhabited

/-- What is wrong with the arguments. -/
inductive UsageError where
  | missingRequired
  | unknownArgument
  /-- An option without its value. -/
  | missingValue
  /-- A value that is no number. -/
  | invalidNumber
  /-- An option that is there twice. -/
  | repeated
  /-- A value for an option that takes none. -/
  | surplusValue
  /-- No mistake: help is asked for. -/
  | help
  /-- No mistake: the version is asked for. -/
  | version
deriving DecidableEq, Repr, Inhabited

/-- The arguments read so far. -/
structure State where
  /-- The options that are settled, with their values. -/
  settled : List (String × String) := []
  /-- The option that waits, and its value if that has come. -/
  pending : Option (Choice × Option String) := none
  /-- Whether only values can follow. -/
  trailing : Bool := false
deriving Repr, Inhabited

/-- The number that a text writes in ASCII digits, with a plus sign perhaps. -/
def number? (text : String) : Option Nat :=
  let digits := match text.toList with
    | '+' :: rest => rest
    | cs => cs
  if digits.isEmpty || !digits.all Char.isDigit then none
  else
    let n := digits.foldl (fun n c => 10 * n + (c.toNat - '0'.toNat)) 0
    if n < Nat.pow 2 64 then some n else none

/-- Settles an option with its value. -/
def settle (state : State) (choice : Choice) (value : String) : Except UsageError State :=
  if state.settled.any fun s => s.1 == choice.name then .error .repeated
  else if choice.action == .number && (number? value).isNone then .error .invalidNumber
  else .ok { state with settled := state.settled ++ [(choice.name, value)] }

/-- Settles the option that waits. -/
def settlePending (state : State) : Except UsageError State :=
  let free := { state with pending := none }
  match state.pending with
  | none => .ok free
  | some (_, none) => .error .missingValue
  | some (choice, some value) => settle free choice value

/-- Takes an option, with a value if one is attached. -/
def take (state : State) (choice : Choice) (attached : Option String) :
    Except UsageError State := do
  match choice.action, attached with
  | .mark, none => settle (← settlePending state) choice ""
  | .help, none => let _ ← settlePending state; throw .help
  | .version, none => let _ ← settlePending state; throw .version
  | .mark, some _ | .help, some _ | .version, some _ => throw .surplusValue
  | .text, some value | .number, some value => settle (← settlePending state) choice value
  | .text, none | .number, none =>
    return { (← settlePending state) with pending := some (choice, none) }

/-- Takes the options that a run of letters names. -/
def takeShort (choices : List Choice) : State → List Char → Except UsageError State
  | state, [] => .ok state
  | state, c :: cs =>
    match choices.find? fun o => o.short == some c with
    | none => .error .unknownArgument
    | some choice =>
      match choice.action with
      | .text | .number =>
        take state choice (match cs with
          | [] => none
          | '=' :: value => some (String.ofList value)
          | value => some (String.ofList value))
      | .mark | .help | .version => do
        let state ← take state choice none
        takeShort choices state cs

/-- Takes the option that a word names, with the value after an equals sign. -/
def takeLong (choices : List Choice) (state : State) (word : List Char) :
    Except UsageError State :=
  let name := String.ofList (word.takeWhile (· != '='))
  let attached := match word.dropWhile (· != '=') with
    | _ :: value => some (String.ofList value)
    | [] => none
  match choices.find? fun o => o.name == name with
  | none => .error .unknownArgument
  | some choice => take state choice attached

/-- Takes a value. -/
def takeValue (state : State) (value : String) : Except UsageError State :=
  match state.pending, state.trailing with
  | some (choice, none), false => .ok { state with pending := some (choice, some value) }
  | _, _ => .error .unknownArgument

/-- Takes an argument. -/
def step (choices : List Choice) (state : State) (argument : String) : Except UsageError State :=
  if state.trailing then takeValue state argument
  else match argument.toList with
    | ['-', '-'] => .ok { state with trailing := true }
    | '-' :: '-' :: word => takeLong choices state word
    | '-' :: c :: cs => takeShort choices state (c :: cs)
    | _ => takeValue state argument

/-- The options that arguments set, with their values. -/
def parse (choices : List Choice) (arguments : List String) :
    Except UsageError (List (String × String)) := do
  let state ← settlePending (← arguments.foldlM (step choices) {})
  let isSet := fun name => state.settled.any fun s => s.1 == name
  if choices.any fun o => o.required && !isSet o.name then throw .missingRequired
  return state.settled

/-! ## The programs -/

/-- The options that both programs have. -/
def commonChoices : List Choice :=
  [{ name := "template", short := some 't' },
   { name := "template-path", short := some 'p' },
   { name := "log-level" },
   { name := "instruction-endpoint" },
   { name := "instruction-model" },
   { name := "help", short := some 'h', action := .help },
   { name := "version", short := some 'V', action := .version }]

/-- The options of the linter. -/
def linterChoices : List Choice :=
  [{ name := "file-path", short := some 'f', required := true },
   { name := "json", action := .mark },
   { name := "timeout-secs", action := .number }] ++ commonChoices

/-- What the linter is asked to do. -/
structure LinterArguments where
  file : String
  json : Bool
  flags : Flags
deriving DecidableEq, Repr, Inhabited

/-- The value of an option. -/
def value? (settled : List (String × String)) (name : String) : Option String :=
  (settled.find? fun s => s.1 == name).map Prod.snd

/-- The flags among the options that are set. -/
def flagsOf (settled : List (String × String)) : Flags :=
  { template := value? settled "template"
    templatePath := value? settled "template-path"
    timeoutSeconds := (value? settled "timeout-secs").bind number?
    endpoint := value? settled "instruction-endpoint"
    model := value? settled "instruction-model"
    logLevel := (value? settled "log-level").getD "info" }

/-- The arguments of the linter. -/
def parseLinter (arguments : List String) : Except UsageError LinterArguments := do
  let settled ← parse linterChoices arguments
  return ⟨(value? settled "file-path").getD "", (value? settled "json").isSome, flagsOf settled⟩

/-- The arguments of the language server. -/
def parseServer (arguments : List String) : Except UsageError Flags :=
  (parse commonChoices arguments).map flagsOf

end Rubric.CommandLine
