import Registrar.Registry.Basic
import Registrar.Sql

/-!
The registry that a database keeps as a table. Queries and inserts become statements; an answer to
a query is a list of rows, and a row becomes a record with an empty text wherever the database
holds none. Inserts write normal forms, as many records in one statement as the limit on bound
values admits.
-/

namespace Registrar

/-- What a row holds in one column. -/
inductive Cell
  | null
  | text (s : String)
  | instant (t : Instant)
  deriving DecidableEq, Repr

/-- A row of an answer, by the names of its columns. -/
abbrev Row := List (String × Cell)

/-- Who connects to a database, and where. -/
structure Login where
  host : String
  /-- The number under which the host listens. -/
  portNumber : Nat
  database : String
  user : String
  password : String
  application : String
  deriving DecidableEq, Repr

/-- The ends of a transaction. -/
inductive Transaction
  | beginReadOnly
  | begin
  | commit
  | rollback
  deriving DecidableEq, Repr

/-- A database that is used by actions of `m`; a failure tells its reason. -/
structure Database (m : Type → Type) where
  connect : Login → m (Except String Unit)
  /-- Sends a statement to see whether the connection works. -/
  probe : Sql.Statement → m (Except String Unit)
  select : Sql.Statement → m (Except String (List Row))
  /-- Sends a statement that writes, and tells how many rows it wrote. -/
  execute : Sql.Statement → m (Except String Nat)
  transact : Transaction → m (Except String Unit)

namespace Row

def cell (row : Row) (column : String) : Except String Cell :=
  match row.lookup column with
  | some c => .ok c
  | none => .error ("no column " ++ column)

/-- What a column of texts holds; nothing stored reads as the empty text. -/
def text (row : Row) (column : String) : Except String String :=
  match row.cell column with
  | .ok .null => .ok ""
  | .ok (.text s) => .ok s
  | .ok (.instant _) => .error ("no text in column " ++ column)
  | .error e => .error e

/-- What a column of instants holds. -/
def instant? (row : Row) (column : String) : Except String (Option Instant) :=
  match row.cell column with
  | .ok .null => .ok none
  | .ok (.instant t) => .ok (some t)
  | .ok (.text _) => .error ("no instant in column " ++ column)
  | .error e => .error e

def record (row : Row) : Except String Record := do
  let id ← row.text "id"
  let country ← row.text "country_id"
  let deletedAt ← row.instant? "deleted_at"
  let texts ← Field.all.mapM fun f => row.text f.column
  return ⟨id, country, .ofFn fun f => texts.getD f.index "", deletedAt⟩

/-- The records of rows; one row without sense spoils the answer. -/
def records (rows : List Row) : Except String (List Record) := rows.mapM record

end Row

namespace Database

variable {m : Type → Type} [Monad m]

/-- Takes an action with a statement, unless it has more values than a database takes. -/
def within {α : Type} (action : Sql.Statement → m (Except String α)) (statement : Sql.Statement) :
    m (Except String α) :=
  if statement.fits then action statement
  else return .error ("more than " ++ toString databaseLimit ++ " values in a statement")

/-- The database, with a failure of its own for each statement that has more values than a database
takes: such a statement does not reach it. -/
def capped (db : Database m) : Database m :=
  { db with select := within db.select, execute := within db.execute }

/-- The registry that the database keeps, asked with at most `limit` values in a query. A query
above the limit is not sent. -/
def registry (db : Database m) (limit : Nat) : Registry m where
  limit := limit
  find country c := do
    let query := Sql.select c
    let required := query.values.length + 1
    if limit < required then return .quiet (.error (.overLimit required limit))
    let events : List Event := [.tableAsked Sql.table required]
    match ← db.select ⟨query.text, country :: query.values⟩ with
    | .error reason => return ⟨events, .error (.database reason)⟩
    | .ok rows =>
      match Row.records rows with
      | .error reason => return ⟨events, .error (.database reason)⟩
      | .ok records => return ⟨events, .ok records⟩

/-- Sends one chunk of an insert, given the counts of those before it. The count of all rows written
has to stay a word. -/
def insertChunk (db : Database m) (counts : List Nat) (n : Nat) (records : List Record) :
    m (Noted (Except StoreError Nat)) := do
  let statement := Sql.insert records
  let events : List Event := [.insertSent (n + 1) records.length statement.values.length]
  match ← db.execute statement with
  | .error reason => return ⟨events, .error (.database reason)⟩
  | .ok rows =>
    if UInt64.size ≤ counts.foldl (· + ·) 0 + rows then
      return ⟨events, .error (.chunking .overflow)⟩
    else return ⟨events, .ok rows⟩

/-- Writes the normal forms of records and tells how many rows were written, by the counts that the
database gives. -/
def insert (db : Database m) (limit : Nat) (records : List Record) :
    m (Noted (Except StoreError Nat)) := do
  if records.isEmpty then return .quiet (.ok 0)
  match ← Chunks.run (limit / Sql.valuesPerRecord) (fun _ => 1) db.insertChunk
      (records.map Record.normalize) with
  | .error cause => return .quiet (.error (.chunking cause))
  | .ok answers =>
    match Chunks.results answers with
    | .error e => return ⟨Chunks.events answers, .error e⟩
    | .ok counts =>
      let written := counts.foldl (· + ·) 0
      return ⟨Chunks.events answers ++ [.insertDone written Sql.table], .ok written⟩

end Database

end Registrar
