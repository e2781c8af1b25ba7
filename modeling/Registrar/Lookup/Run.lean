import Registrar.Lookup.Plan
import Registrar.Text.Ascii

/-!
Asking the registry and sharing out the answers. The probes go out in as few queries as the limit
admits. Every record that comes back is held against each probe of its query: it goes to the
candidate of the probe if it satisfies what the probe keeps and is not the candidate itself. Each
candidate gets its records by id, each id once. A failure leaves no result.
-/

namespace Registrar.Lookup

/-- The stored record carries the candidate's own id; a candidate with a blank id has no own
record. -/
def isOwn (candidate row : Record) : Bool :=
  let id := Text.trim candidate.id
  id != "" && Text.sameIgnoringCase id row.id

/-- The record goes to the candidate by way of the probe. -/
def takes (candidate : Record) (probe : Probe) (row : Record) : Bool :=
  !isOwn candidate row && probe.keep.holds row

/-- Puts a record into a list by id; a record with its id that is there already stays. -/
def insertById (row : Record) : List Record → List Record
  | [] => [row]
  | r :: rs =>
    if row.id < r.id then row :: r :: rs
    else if row.id = r.id then r :: rs
    else r :: insertById row rs

/-- The first record of each id, by id. -/
def byId (rows : List Record) : List Record := rows.foldl (fun found row => insertById row found) []

/-- What a candidate gets of the answer to one query. -/
def share (index : Nat) (candidate : Record) (chunk : List Probe) (rows : List Record) :
    List Record :=
  let own := chunk.filter (·.candidate == index)
  rows.filter fun row => own.any fun probe => takes candidate probe row

/-- The records of each candidate, given the chunks with the answers to them. -/
def shareOut (batch : List Record) (answers : List (List Probe × List Record)) :
    List (List Record) :=
  batch.zipIdx.map fun (candidate, index) =>
    byId (answers.flatMap fun (chunk, rows) => share index candidate chunk rows)

variable {m : Type → Type} [Monad m]

def askChunk (registry : Registry m) (country : String) (n : Nat) (chunk : List Probe) :
    m (Noted (Except StoreError (List Probe × List Record))) := do
  let c := request chunk
  let answer ← registry.find country c
  match answer.value with
  | .error e => return ⟨answer.events, .error e⟩
  | .ok rows =>
    return ⟨answer.events ++ [.queryAnswered (n + 1) (c.size + 1) rows.length], .ok (chunk, rows)⟩

/-- The stored duplicates of each candidate of a batch. -/
def run (registry : Registry m) (selection : Selection) (country : String) (batch : List Record) :
    m (Noted (Except StoreError (List (List Record)))) := do
  let planned := plan registry.limit selection batch
  match planned.value with
  | .error e => return ⟨planned.events, .error e⟩
  | .ok [] => return ⟨planned.events, .ok (shareOut batch [])⟩
  | .ok probes =>
    let budget := budget registry.limit
    let events := planned.events ++ [.lookupPlanned probes.length budget]
    match ← Chunks.run budget (·.ask.size) (fun _ => askChunk registry country) probes with
    | .error cause => return ⟨events, .error (.chunking cause)⟩
    | .ok answers =>
      return ⟨events ++ Chunks.events answers, (Chunks.results answers).map (shareOut batch)⟩

end Registrar.Lookup
