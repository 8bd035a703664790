import Harvest.Main
import Harvest.Proofs.Extraction.Sequence
import Harvest.Proofs.Extraction.Reach
import Harvest.Proofs.Batch.Records
import Harvest.Proofs.Batch.Tolerance
import Harvest.Proofs.Batch.Schedule
import Harvest.Proofs.Json.Lexeme
import Harvest.Proofs.Json.RoundTrip
import Harvest.Proofs.Json.Pairs
import Harvest.Proofs.Text.Utf8
import Harvest.Proofs.Extraction.Portable
import Harvest.Proofs.Json.Line
import Harvest.Proofs.Output.Decode
import Harvest.Proofs.Command.Files
import Harvest.Proofs.Json.Refusal
import Harvest.Proofs.Output.Calls
import Harvest.Proofs.Batch.Statistics
import Harvest.Proofs.Extraction.Mirror
import Harvest.Proofs.Extraction.Locality
import Harvest.Proofs.Command.Supply
import Harvest.Proofs.Batch.Carrier
import Harvest.Proofs.Batch.EntryPoints
import Harvest.Proofs.Output.History
import Harvest.Proofs.Command.Inputs
import Harvest.Proofs.Output.ReadBack
import Harvest.Proofs.Batch.Resilience
import Harvest.Proofs.Batch.Independence
import Harvest.Proofs.Command.DryRun
import Harvest.Proofs.Command.Threads
import Harvest.Proofs.Extraction.ReadAhead
import Harvest.Proofs.Extraction.Cardinality
import Harvest.Proofs.Extraction.Spelling
import Harvest.Proofs.Extraction.Siblings
import Harvest.Proofs.Rule.Payload
import Harvest.Proofs.Path.Lookup
import Harvest.Proofs.Path.Render
import Harvest.Proofs.Extraction.Depth
import Harvest.Proofs.Text.Refold
import Harvest.Proofs.Batch.Loading
