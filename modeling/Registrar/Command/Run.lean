import Registrar.Catalog.Json
import Registrar.Command.Arguments
import Registrar.Environment.File
import Registrar.Registry.Table
import Registrar.Report.Findings
import Registrar.Settings

/-!
Running a command. A check reads its batch, searches it inside one read-only transaction and prints
the findings. An import searches, prints and inserts inside one transaction: it is rolled back when
duplicates were found that are not allowed, and a failure anywhere leaves it without a commit.
-/

namespace Registrar

/-- What a command needs from outside, by actions of `m`. -/
structure Host (m : Type → Type) where
  /-- The text of a file, if there is one that can be read. -/
  fileText : String → m (Option String)
  print : String → m Unit
  /-- An id that no record has. -/
  newId : m String
  database : Database m

inductive Outcome
  | clean
  /-- Duplicates were found. -/
  | duplicates
  | failed (message : String)
  /-- The arguments make no command. -/
  | misused
  /-- The process broke down: a file gave a variable a value that none can have, or a sum was past
  the last word. -/
  | aborted
  deriving DecidableEq, Repr

def Outcome.status : Outcome → Nat
  | clean => 0
  | duplicates | failed _ => 1
  | misused => 2
  | aborted => 101

namespace Command

/-! ### Where the database is -/

/-- The number of 16 bits that a variable gives, blanks around it dropped; what is no such number
counts for nothing. -/
def portNumber (raw : Option String) : Nat :=
  (raw.bind fun text => Text.wordBelow? UInt16.size (Text.stripBoth Text.isBlank text.toList)).getD
    5432

def login (env : Environment) : Login where
  host := (env.get? "POSTGRES_HOST").getD "127.0.0.1"
  portNumber := portNumber (env.get? "POSTGRES_PORT")
  database := (env.get? "POSTGRES_DB").getD "dataplatform"
  user := (env.get? "POSTGRES_USER").getD "postgres"
  password := (env.get? "POSTGRES_PASSWORD").getD ""
  application := "individual_dedupe"

/-- The statement that shows that a connection works. -/
def probeStatement : Sql.Statement := ⟨"SELECT 1", []⟩

/-! ### Actions that may fail -/

variable {m : Type → Type} [Monad m]

/-- An action that goes on with a value or ends the command. -/
abbrev Attempt (m : Type → Type) (α : Type) := ExceptT Outcome m α

/-- An action whose failure ends the command. -/
def orEnd {ε α : Type} (outcome : ε → Outcome) (action : m (Except ε α)) : Attempt m α :=
  ExceptT.mk do
    match ← action with
    | .ok a => return .ok a
    | .error e => return .error (outcome e)

/-- An action whose failure has the given message, whatever its cause. -/
def orFail {ε α : Type} (message : String) (action : m (Except ε α)) : Attempt m α :=
  orEnd (fun _ => .failed message) action

/-- What an error of the registry makes of the command: its cause is not told, but nothing catches
a sum past the last word. -/
def registryOutcome (message : String) : StoreError → Outcome
  | .chunking .overflow => .aborted
  | _ => .failed message

def selectionOf (catalog : Catalog) (settings : Settings) (request : Request) :
    Attempt m Selection :=
  match (settings.select catalog request.groups request.connective).value with
  | .ok selection => pure selection
  | .error e => throw (.failed e.message)

def batchOf (host : Host m) (request : Request) : Attempt m (List Record) := do
  match ← (host.fileText request.input : m _) with
  | none => throw (.failed ("Failed to read " ++ request.input))
  | some text =>
    match Batch.read? text with
    | some batch => return batch
    | none =>
      throw (.failed ("Failed to parse " ++ request.input ++ " as a JSON array of individuals"))

/-- Connects to the database and sees that the connection works. -/
def connect (db : Database m) (env : Environment) : Attempt m Unit := do
  orFail "Failed to connect to database" (db.connect (login env))
  orFail "Failed to connect to database" (db.probe probeStatement)

def search (db : Database m) (settings : Settings) (selection : Selection) (country : String)
    (batch : List Record) : Attempt m Report :=
  orEnd (registryOutcome "Duplicate check failed") do
    let found ← Report.search (db.registry settings.limit) selection country batch
    return found.value

/-- Prints the findings and tells whether the batch is clean. -/
def printFindings (host : Host m) (selection : Selection) (batch : List Record)
    (report : Report) : Attempt m Bool := do
  let findings := Findings.ofReport selection batch report
  (host.print (findings.toJson.pretty ++ "\n") : m _)
  return findings.clean

/-- Gives each record with a blank id a new one. -/
def withIds (host : Host m) : List Record → m (List Record)
  | [] => pure []
  | r :: rs => do
    let r ← if Batch.knownId r = "" then (return { r with id := ← host.newId }) else pure r
    return r :: (← withIds host rs)

/-- Checks a batch; tells whether it is clean. -/
def runCheck (host : Host m) (env : Environment) (catalog : Catalog) (settings : Settings)
    (request : Request) : Attempt m Bool := do
  let db := host.database
  let selection ← selectionOf catalog settings request
  let batch ← batchOf host request
  connect db env
  orFail "Failed to start read transaction" (db.transact .beginReadOnly)
  let report ← search db settings selection request.country batch
  orFail "Failed to close read transaction" (db.transact .commit)
  printFindings host selection batch report

/-- Checks a batch and inserts it, if it is clean or duplicates are allowed; tells whether it is
clean. -/
def runInsert (host : Host m) (env : Environment) (catalog : Catalog) (settings : Settings)
    (request : Request) (allowDuplicates : Bool) : Attempt m Bool := do
  let db := host.database
  let selection ← selectionOf catalog settings request
  let read ← batchOf host request
  let batch := read.map fun r => { r with country := request.country }
  connect db env
  orFail "Failed to start import transaction" (db.transact .begin)
  let report ← search db settings selection request.country batch
  let clean ← printFindings host selection batch report
  if !clean && !allowDuplicates then
    orFail "Failed to roll back import" (db.transact .rollback)
    return false
  let records ← (withIds host batch : m _)
  let _ ← orEnd (registryOutcome "Failed to insert individuals") do
    return (← db.insert settings.limit records).value
  orFail "Failed to commit import" (db.transact .commit)
  return clean

def run (host : Host m) (env : Environment) (command : Command) : Attempt m Bool := do
  let catalog := Catalog.standard
  let settings := (Settings.read catalog env.get?).value
  match command with
  | .groups => do
    (host.print (catalog.choices.pretty ++ "\n") : m _)
    return true
  | .check request => runCheck host env catalog settings request
  | .insert request allowDuplicates => runInsert host env catalog settings request allowDuplicates

/-- The environment with what the files of variables supply. -/
def environment (host : Host m) (env : Environment) : m (Option Environment) := do
  return env.takeFirst (← Environment.files.mapM host.fileText)

def usage : String :=
  "Duplicate detection for individual registrations\n\n" ++
  "Usage: dedupe <COMMAND>\n\n" ++
  "Commands:\n" ++
  "  groups  List the selectable field groups as JSON\n" ++
  "  check   Check a batch for duplicates without writing anything\n" ++
  "  import  Check a batch and insert it when no duplicates were found\n\n" ++
  "Options of check and import:\n" ++
  "  --country <COUNTRY>    Country the batch belongs to\n" ++
  "  --input <INPUT>        JSON file holding an array of individuals\n" ++
  "  --groups <GROUPS>      Comma separated field groups\n" ++
  "  --operator <OPERATOR>  AND or OR\n" ++
  "  --allow-duplicates     Insert even when duplicates were found (import only)\n"

def runArguments (host : Host m) (env : Environment) (arguments : List String) : m Outcome := do
  let some env ← environment host env | return .aborted
  match read arguments with
  | .wrong => return .misused
  | .about => do
    host.print usage
    return .clean
  | .run command =>
    match ← (run host env command).run with
    | .ok true => return .clean
    | .ok false => return .duplicates
    | .error outcome => return outcome

end Command

end Registrar
