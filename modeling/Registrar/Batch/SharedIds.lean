import Registrar.Record

/-!
Rows of a batch that carry one id. Ids are compared without the blanks around them, and rows
without an id are left out.
-/

namespace Registrar.Batch

/-- An id with the places of the rows that carry it. -/
structure SharedId where
  id : String
  rows : List Nat
  deriving DecidableEq, Repr

def knownId (r : Record) : String := Text.trim r.id

/-- Puts a text into an ordered list, unless it is there. -/
def insertOnce (s : String) : List String → List String
  | [] => [s]
  | t :: ts => if s < t then s :: t :: ts else if s = t then t :: ts else t :: insertOnce s ts

/-- The texts of a list in order, each once. -/
def ordered (ss : List String) : List String := ss.foldl (fun met s => insertOnce s met) []

/-- The places of the rows with an id. -/
def rowsWith (id : String) (batch : List Record) : List Nat :=
  (batch.zipIdx.filter fun (r, _) => knownId r == id).map (·.2)

/-- The ids that two or more rows carry, in order, with the rows. -/
def sharedIds (batch : List Record) : List SharedId :=
  let ids := (ordered (batch.map knownId)).filter (· ≠ "")
  (ids.map fun id => ⟨id, rowsWith id batch⟩).filter fun s => decide (1 < s.rows.length)

end Registrar.Batch
