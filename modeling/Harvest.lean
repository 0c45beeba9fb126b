import Harvest.Bson.Extended
import Harvest.Command.Execute
import Harvest.Digest.Random
import Harvest.Main
import Harvest.Pipeline.Counters
import Harvest.Pipeline.Failure
import Harvest.Pipeline.Runner
import Harvest.Proofs.Command.Sources
import Harvest.Proofs.Json.Unbroken
import Harvest.Proofs.Pipeline.EmptyFields
import Harvest.Proofs.Pipeline.Packed
import Harvest.Proofs.Pipeline.Pool
import Harvest.Proofs.Pipeline.Refinement
import Harvest.Proofs.Pipeline.Rehearsed
import Harvest.Proofs.Pipeline.Rerun
import Harvest.Proofs.Pipeline.Stale
import Harvest.Proofs.Record.Document
import Harvest.Proofs.Record.Format
import Harvest.Proofs.Record.Lines
import Harvest.Proofs.Record.Stored
import Harvest.Proofs.Settings.RoundTrip
import Harvest.Proofs.Settings.Validation
import Harvest.Proofs.Store.Neighbours
import Harvest.Proofs.Translation.Request
import Harvest.Proofs.Translation.Segments
import Harvest.Proofs.Translation.Signature
import Harvest.Proofs.Url.Absolute
import Harvest.Record.Lines
import Harvest.Settings.Derived
import Harvest.Settings.Environment
import Harvest.Settings.File
import Harvest.Settings.Validation
import Harvest.Store.Faults
import Harvest.Store.Image
import Harvest.Store.Memory
import Harvest.Store.Opening
import Harvest.Stored
import Harvest.Translation.Client
import Harvest.Translation.Packing
import Harvest.Translation.Rehearsal
import Harvest.Translation.Request
import Harvest.Translation.Response
import Harvest.Url.Resolve
