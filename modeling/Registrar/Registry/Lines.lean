import Registrar.Json.Reader
import Registrar.Json.Writer
import Registrar.Record.Json
import Registrar.Registry.Table

/-!
A database behind a line. Every call becomes one line of JSON and gets one line back: an object that
holds the reason of a failure, or the rows of a query, or the number of rows written. Whatever
carries the lines decides where the database is.
-/

namespace Registrar.Database

/-- What is asked of a database. -/
inductive Call
  | connect (login : Login)
  | select (statement : Sql.Statement)
  | execute (statement : Sql.Statement)
  | transact (t : Transaction)
  deriving DecidableEq, Repr

namespace Call

def word : Transaction → String
  | .beginReadOnly => "begin_read_only"
  | .begin => "begin"
  | .commit => "commit"
  | .rollback => "rollback"

def toJson : Call → Json
  | connect login => .members [("connect", .members [
      ("port_number", .nat login.portNumber), ("user", .text login.user),
      ("password", .text login.password), ("database", .text login.database),
      ("application_name", .text login.application)])]
  | select statement => .members [("select", .text statement.text),
      ("values", .texts statement.values)]
  | execute statement => .members [("execute", .text statement.text),
      ("values", .texts statement.values)]
  | transact t => .members [("transaction", .text (word t))]

end Call

/-- What a value stands for in a column: instants have one column, texts all others. -/
def cellOf? (column : String) : Json → Option Cell
  | .null => some .null
  | .string (some s) =>
    if column = "deleted_at" then (Instant.read? s).map .instant else some (.text s)
  | _ => none

/-- The row that an object tells. -/
def rowOf? : Json → Option Row
  | .object ms => ms.mapM fun m => do
    let name ← m.1
    return (name, ← cellOf? name m.2)
  | _ => none

/-- What a reply gives for a name. -/
def given? (name : String) : Json → Option Json
  | .object ms => ms.lookup (some name)
  | _ => none

/-- The reply of a line, unless it tells a failure. -/
def replyOf (line : String) : Except String Json :=
  match Json.read? line with
  | none => .error "unreadable reply"
  | some reply =>
    match given? "error" reply with
    | some (.string reason) => .error (reason.getD "")
    | _ => .ok reply

def rowsOf (reply : Json) : Except String (List Row) :=
  match given? "rows" reply with
  | some (.array rows) => (rows.mapM rowOf?).elim (.error "unreadable rows") .ok
  | _ => .ok []

/-- The number of rows written, as a reply tells it. -/
def writtenOf (reply : Json) : Except String Nat :=
  match given? "affected" reply with
  | some (.number digits) =>
    (Text.wordBelow? UInt64.size digits.toList).elim (.error "no number") .ok
  | _ => .error "no number"

variable {m : Type → Type} [Monad m]

/-- The database that answers over `exchange`, which sends a line and gets one back. -/
def overLines (exchange : String → m (Except String String)) : Database m :=
  let call (c : Call) : m (Except String Json) := do
    return (← exchange c.toJson.compact) >>= replyOf
  capped {
    connect := fun login => do return (← call (.connect login)).map fun _ => ()
    probe := fun statement => do return (← call (.select statement)).map fun _ => ()
    select := fun statement => do return (← call (.select statement)) >>= rowsOf
    execute := fun statement => do return (← call (.execute statement)) >>= writtenOf
    transact := fun t => do return (← call (.transact t)).map fun _ => () }

end Registrar.Database
