import Registrar.Record.Json
import Registrar.Report.Messages

/-!
What a check prints: the groups and the connective of its selection, the report, and all messages,
those of shared ids first. A batch is clean when nothing was found in it.
-/

namespace Registrar

/-- The outcome of a check, ready for printing. -/
structure Findings where
  groups : List String
  connective : Connective
  report : Report
  messages : List Message
  /-- Neither shared ids nor duplicates were found. -/
  clean : Bool

namespace Message

def toJson (m : Message) : Json :=
  .members [("message", .text m.text), ("details", .texts m.details)]

end Message

namespace Report

def toJson (report : Report) : Json :=
  .members [
    ("file_duplicates", .array (report.inBatch.map fun places => .array (places.map Json.nat))),
    ("db_duplicates", .array (report.stored.map Batch.toJson))]

end Report

namespace Findings

def ofReport (selection : Selection) (batch : List Record) (report : Report) : Findings :=
  let shared := Batch.sharedIds batch
  { groups := selection.ids
    connective := selection.connective
    report := report
    messages := shared.map (Batch.SharedId.message batch) ++ report.messages batch selection
    clean := shared.isEmpty && !report.hasDuplicates }

def toJson (findings : Findings) : Json :=
  .members [
    ("groups", .texts findings.groups),
    ("operator", .text findings.connective.word),
    ("report", findings.report.toJson),
    ("messages", .array (findings.messages.map Message.toJson))]

end Findings

end Registrar
