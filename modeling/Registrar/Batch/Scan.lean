import Registrar.Criterion.Basic

/-!
The duplicates inside a batch. Each two rows are compared once, the earlier one being the
candidate, and a match counts for both.
-/

namespace Registrar.Batch

/-- A row of a batch with its place and its criterion. -/
structure Entry where
  index : Nat
  record : Record
  criterion : Criterion

def entries (selection : Selection) (batch : List Record) : List Entry :=
  batch.zipIdx.map fun (r, i) => ⟨i, r, Criterion.ofCandidate selection r⟩

/-- Two different rows match; the earlier one is the candidate. -/
def matched (a b : Entry) : Bool :=
  if a.index < b.index then a.criterion.holds b.record
  else decide (b.index < a.index) && b.criterion.holds a.record

/-- For each row the places of its duplicates in the batch, in order. -/
def scan (selection : Selection) (batch : List Record) : List (List Nat) :=
  let entries := entries selection batch
  entries.map fun a => (entries.filter (matched a)).map (·.index)

def pairCount (duplicates : List (List Nat)) : Nat := duplicates.flatten.length / 2

def scanNoted (selection : Selection) (batch : List Record) : Noted (List (List Nat)) :=
  let duplicates := scan selection batch
  ⟨[.batchScanned batch.length (pairCount duplicates)], duplicates⟩

end Registrar.Batch
