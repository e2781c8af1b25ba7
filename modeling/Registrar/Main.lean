import Registrar.Command.Run
import Registrar.Record.Id
import Registrar.Registry.Lines

/-!
The program. Its database is reached through two pipes in the directory that the environment names
as the host: `requests` takes the lines of the calls and `replies` gives those of the replies.
-/

namespace Registrar

/-- The text of a file, if there is one that can be read. -/
def textOfFile (path : String) : IO (Option String) := do
  try return some (← IO.FS.readFile path) catch _ => return none

/-- The pipes of a database. -/
structure Pipes where
  requests : IO.FS.Handle
  replies : IO.FS.Handle

/-- Sends a line and waits for the one that comes back. -/
def Pipes.exchange (pipes : Pipes) (line : String) : IO (Except String String) := do
  pipes.requests.putStrLn line
  pipes.requests.flush
  return .ok (← pipes.replies.getLine)

/-- Sends a line over the pipes under a directory, which are opened by the first one. -/
def exchangeUnder (directory : String) (open? : IO.Ref (Option Pipes)) (line : String) :
    IO (Except String String) := do
  try
    match ← open?.get with
    | some pipes => pipes.exchange line
    | none =>
      let pipes : Pipes := ⟨← IO.FS.Handle.mk (directory ++ "/requests") .readWrite,
        ← IO.FS.Handle.mk (directory ++ "/replies") .read⟩
      open?.set (some pipes)
      pipes.exchange line
  catch e => return .error (toString e)

/-- The names of the variables that the program reads. -/
def variableNames : List String :=
  ["POSTGRES_HOST", "POSTGRES_PORT", "POSTGRES_DB", "POSTGRES_USER", "POSTGRES_PASSWORD",
    "DEDUP_MAX_QUERY_PARAMS", "DEDUP_DEFAULT_OPERATOR", "DEDUP_DEFAULT_GROUPS"]

/-- The words of a text that can be names of variables. -/
def words (text : String) : List String :=
  (text.toList.splitBy fun a b => named a == named b).filterMap fun word =>
    if word.any named then some (String.ofList word) else none
where
  named (c : Char) : Bool := c.isAlphanum || c == '_'

/-- The variables of the process that the program or one of its files of variables may name. -/
def processEnvironment : IO Environment := do
  let texts ← Environment.files.filterMapM textOfFile
  (variableNames ++ texts.flatMap words).eraseDups.filterMapM fun name => do
    return (← IO.getEnv name).map fun value => (name, value)

/-- The host of a process whose database is under a directory. -/
def processHost (directory : String) (open? : IO.Ref (Option Pipes)) : Host IO where
  fileText := textOfFile
  print := IO.print
  newId := do return Record.idOfBytes (← IO.getRandomBytes 16).toList
  database := Database.overLines (exchangeUnder directory open?)

end Registrar

open Registrar in
def main (arguments : List String) : IO UInt32 := do
  let env ← processEnvironment
  let all := env.takeFirst (← Environment.files.mapM textOfFile)
  let host := processHost (Command.login (all.getD env)).host (← IO.mkRef none)
  let outcome ← Command.runArguments host env arguments
  match outcome with
  | .failed message => IO.eprintln ("Error: " ++ message)
  | .misused => IO.eprint Command.usage
  | .aborted => IO.eprintln "Error: a variable with a NUL in its value, or a sum past the last word"
  | _ => pure ()
  return outcome.status.toUInt32
