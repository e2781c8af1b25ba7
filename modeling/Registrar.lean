import Registrar.Instant.Text
import Registrar.Catalog.Json
import Registrar.Criterion.Cover
import Registrar.Registry.Held
import Registrar.Registry.Lines
import Registrar.Batch.SharedIds
import Registrar.Report.Findings
import Registrar.Record.Id
import Registrar.Command.Run
import Registrar.Main
import Registrar.Proofs.Criterion.Rule
import Registrar.Proofs.Criterion.Cover
import Registrar.Proofs.Chunks
import Registrar.Proofs.Lookup.Plan
import Registrar.Proofs.Lookup.Answers
import Registrar.Proofs.Lookup.Run
import Registrar.Proofs.Lookup.Held
import Registrar.Proofs.Sql.Reading
import Registrar.Proofs.Record
import Registrar.Proofs.Registry.Rows
import Registrar.Proofs.Sql.Tokens
import Registrar.Proofs.Sql.Clause
import Registrar.Proofs.Sql.Truth
import Registrar.Proofs.Text.Lowercase
import Registrar.Proofs.Batch
import Registrar.Proofs.Registry.Dialogue
import Registrar.Proofs.Lookup.Dialogue
import Registrar.Proofs.Import.Sound
import Registrar.Proofs.Import.Faithful
import Registrar.Proofs.Import.Run
import Registrar.Proofs.Import.Table
import Registrar.Proofs.Import.Reachable
import Registrar.Proofs.Lookup.Limit
import Registrar.Proofs.Lookup.Sound
import Registrar.Proofs.Report
import Registrar.Proofs.Batch.Graph
import Registrar.Proofs.Criterion.Outline
import Registrar.Proofs.Lookup.Outline
import Registrar.Proofs.Sql.Outline
import Registrar.Proofs.Registry.Acts
import Registrar.Proofs.Selection
import Registrar.Proofs.Registry.Texts
import Registrar.Proofs.Report.Normal
import Registrar.Proofs.Report.Monotone
import Registrar.Proofs.Import.Acts
import Registrar.Proofs.Import.Atomic
import Registrar.Proofs.Import.Watched
import Registrar.Proofs.Report.Printed
import Registrar.Proofs.Report.Findings
import Registrar.Proofs.Report.Emptied
import Registrar.Proofs.Report.Journal
import Registrar.Proofs.Settings
import Registrar.Proofs.Chunks.Fewest
import Registrar.Proofs.Chunks.Runs
import Registrar.Proofs.Sql.Insertion
import Registrar.Proofs.Import.Insert
import Registrar.Proofs.Lookup.Canonical
import Registrar.Proofs.Lookup.Reupload
import Registrar.Proofs.Selection.Names
import Registrar.Proofs.Selection.Resolution
import Registrar.Proofs.Settings.Fallback
import Registrar.Proofs.Batch.SharedIds
import Registrar.Proofs.Batch.OwnRecords
import Registrar.Proofs.Report.Evidence
import Registrar.Proofs.Environment.Line
import Registrar.Proofs.Environment.File
import Registrar.Proofs.Chunks.Sums
import Registrar.Proofs.Instant
import Registrar.Proofs.Json
import Registrar.Proofs.Record.Json
