import Registrar.Batch.Scan
import Registrar.Lookup.Run

/-!
The outcome of a search for duplicates: for each row of the batch its duplicates inside the batch
and its duplicates in the registry. A search that the registry cannot finish gives no report.
-/

namespace Registrar

/-- The duplicates of each row of a batch. -/
structure Report where
  /-- The places of the duplicates inside the batch. -/
  inBatch : List (List Nat)
  /-- The stored duplicates. -/
  stored : List (List Record)
  deriving DecidableEq, Repr

namespace Report

def hasDuplicates (report : Report) : Bool :=
  report.inBatch.any (!·.isEmpty) || report.stored.any (!·.isEmpty)

/-- How many pairs of rows are duplicates of each other. -/
def pairCount (report : Report) : Nat := Batch.pairCount report.inBatch

/-- How many rows have a stored duplicate. -/
def storedCount (report : Report) : Nat := report.stored.countP (!·.isEmpty)

def errorMessage (e : StoreError) : String := "Record store error: " ++ e.message

def search {m : Type → Type} [Monad m] (registry : Registry m) (selection : Selection)
    (country : String) (batch : List Record) : m (Noted (Except StoreError Report)) := do
  let scanned := Batch.scanNoted selection batch
  let before : List Event :=
    [.checkStarted batch.length country selection.ids selection.connective.word,
      .phaseEntered "Batch scan" none] ++
    scanned.events ++
    [.pairsFound (Batch.pairCount scanned.value), .phaseEntered "Persisted lookup" none]
  let found ← Lookup.run registry selection country batch
  match found.value with
  | .error e => return ⟨before ++ found.events, .error e⟩
  | .ok stored =>
    let report : Report := ⟨scanned.value, stored⟩
    return ⟨before ++ found.events ++ [.checkDone report.pairCount report.storedCount],
      .ok report⟩

end Report

end Registrar
