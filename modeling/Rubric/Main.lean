/-
  Rubric.Main

  The programs themselves: the linter, and behind the word `serve` the language
  server on standard input and output.
-/
import Rubric.Editor.Wire
import Rubric.Program

namespace Rubric

/-- What an error of the system says about a file. -/
def FileFault.ofError : IO.Error → FileFault
  | .noFileOrDirectory _ _ _ => .notFound
  | .inappropriateType _ code _ => if code == 20 then .notDirectory else .isDirectory
  | .userError _ => .notText
  | _ => .notFound

/-- Reads a file of the machine. -/
def readFile (path : String) : IO (Except FileFault String) := do
  try
    return .ok (← IO.FS.readFile path)
  catch e =>
    return .error (FileFault.ofError e)

/-- The machine that the program runs on. It reaches no network. -/
def machine : IO (Host IO) := do
  let here ← IO.currentDir
  let home ← IO.getEnv "HOME"
  let settings ← IO.getEnv "XDG_CONFIG_HOME"
  return {
    readText := readFile
    isFile := fun path => return match ← readFile path with
      | .ok _ | .error .notText => true
      | .error _ => false
    faultOf := fun path => return match ← readFile path with
      | .ok _ | .error .notText | .error .isDirectory => none
      | .error fault => some fault
    here := here.toString
    settingsDirectory := settings <|> home.map fun home => Path.join home ".config"
    network := .none }

/-- The length that the lines before a message give it. -/
partial def readLength (input : IO.FS.Stream) (length : Nat) : IO (Option Nat) := do
  let line ← input.getLine
  if line.isEmpty then return none
  let text := Text.trimString line
  if text.isEmpty then return some length
  match text.splitOn ":" with
  | ["Content-Length", n] => readLength input ((Text.trimString n).toNat?.getD length)
  | _ => readLength input length

/-- Serves an editor until it leaves. -/
partial def serve (host : Host IO) (server : Editor.Server) : IO Unit := do
  let input ← IO.getStdin
  let output ← IO.getStdout
  match ← readLength input 0 with
  | none => return
  | some length =>
    let bytes ← input.read (USize.ofNat length)
    match (String.fromUTF8? bytes).map Json.parse with
    | some (.ok message) =>
      let (server, frames) ← server.receive host message
      for frame in frames do
        let text := Json.compact frame
        output.putStr s!"Content-Length: {text.utf8ByteSize}\r\n\r\n{text}"
      output.flush
      if server.phase = .gone then return
      serve host server
    | _ => serve host server

/-- Starts the language server. -/
def runServer (host : Host IO) (arguments : List String) : IO UInt32 := do
  match CommandLine.parseServer arguments with
  | .error e =>
    let outcome := Outcome.ofUsage e
    IO.print outcome.output
    IO.eprint outcome.errors
    return outcome.code.toUInt32
  | .ok flags =>
    match ← Editor.Server.startIn host flags with
    | .error failure =>
      IO.eprintln s!"Error: {failure.toText}"
      return 1
    | .ok server =>
      serve host server
      return 0

/-- Runs the linter. -/
def runLinter (host : Host IO) (arguments : List String) : IO UInt32 := do
  match ← Linter.run host arguments with
  | some outcome =>
    IO.print outcome.output
    IO.eprint outcome.errors
    return outcome.code.toUInt32
  | none => return 1

end Rubric

def main (arguments : List String) : IO UInt32 := do
  let host ← Rubric.machine
  match arguments with
  | "serve" :: rest => Rubric.runServer host rest
  | arguments => Rubric.runLinter host arguments
