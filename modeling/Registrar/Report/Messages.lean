import Registrar.Batch.SharedIds
import Registrar.Report.Basic

/-!
What a report tells the person who handed in the batch. Rows are numbered as in a spreadsheet with
a header. A pair of rows and a stored duplicate each make one message, with a line for each field
of the selection that has something to show.
-/

namespace Registrar

/-- A message with its lines of evidence. -/
structure Message where
  text : String
  details : List String
  deriving DecidableEq, Repr

namespace Report

/-- The number of a row in the spreadsheet, the header being row 1. -/
def rowNumber (index : Nat) : Nat := index + 2

/-- The line of a field for two rows; a field that is empty in both has none. -/
def pairDetail (i j : Nat) (a b : Record) (f : Field) : Option String :=
  if a.value f = "" ∧ b.value f = "" then none
  else some (":: " ++ f.column ++ s!" :: Row {rowNumber i}: " ++ a.value f ++
    s!" | Row {rowNumber j}: " ++ b.value f)

def pairMessage (fields : List Field) (i j : Nat) (a b : Record) : Message where
  text := "Last name " ++ a.lastName ++ s!" - Row {rowNumber i} and Last name: " ++ b.lastName ++
    s!" - Row {rowNumber j} in your file are duplicates"
  details := fields.filterMap (pairDetail i j a b)

/-- The line of a field for a row and a stored record; a field that is empty in the stored record
has none. -/
def storedDetail (candidate stored : Record) (f : Field) : Option String :=
  if stored.value f = "" then none
  else some (":: " ++ f.column ++ " :: Database value: " ++ stored.value f ++ " | File value: " ++
    candidate.value f)

def storedMessage (fields : List Field) (i : Nat) (candidate stored : Record) : Message where
  text := "Last name " ++ candidate.lastName ++
    s!" - Row {rowNumber i} is a duplicate of the participant " ++ stored.lastName ++
    " with the id " ++ stored.id
  details := fields.filterMap (storedDetail candidate stored)

/-- The messages of the pairs, each pair once; places outside the batch are passed over. -/
def pairMessages (report : Report) (batch : List Record) (fields : List Field) : List Message :=
  report.inBatch.zipIdx.flatMap fun (others, i) =>
    (others.filter (i < ·)).filterMap fun j =>
      match batch[i]?, batch[j]? with
      | some a, some b => some (pairMessage fields i j a b)
      | _, _ => none

/-- The messages of the stored duplicates; rows outside the batch are passed over. -/
def storedMessages (report : Report) (batch : List Record) (fields : List Field) : List Message :=
  report.stored.zipIdx.flatMap fun (records, i) =>
    match batch[i]? with
    | some candidate => records.map (storedMessage fields i candidate)
    | none => []

/-- The messages of a report: the pairs, then the stored duplicates. -/
def messages (report : Report) (batch : List Record) (selection : Selection) : List Message :=
  report.pairMessages batch selection.fields ++ report.storedMessages batch selection.fields

end Report

namespace Batch

/-- The message of rows that share an id; rows outside the batch are passed over. -/
def SharedId.message (batch : List Record) (s : SharedId) : Message where
  text := String.intercalate ", " (s.rows.filterMap fun i =>
      (batch[i]?).map fun r =>
        "Last name: " ++ r.lastName ++ s!" - (Row {Report.rowNumber i})") ++
    " share the same id: " ++ s.id
  details := []

end Batch

end Registrar
