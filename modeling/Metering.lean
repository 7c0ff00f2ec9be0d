import Metering.Main
import Metering.Proofs.Backfill.Accounts
import Metering.Proofs.Backfill.Atomic
import Metering.Proofs.Backfill.Budget
import Metering.Proofs.Backfill.Cutover
import Metering.Proofs.Backfill.Handover
import Metering.Proofs.Cache.Canonical
import Metering.Proofs.Cache.Gaps
import Metering.Proofs.Cache.GroupKey
import Metering.Proofs.Cache.OpenCalls
import Metering.Proofs.Cache.Recut
import Metering.Proofs.Cache.Reuse
import Metering.Proofs.Cache.SharedName
import Metering.Proofs.Cache.StorableRange
import Metering.Proofs.Cache.Uncovered
import Metering.Proofs.Filter.Meaning
import Metering.Proofs.Filter.Validation
import Metering.Proofs.Ingest.Agreement
import Metering.Proofs.Ingest.Batch
import Metering.Proofs.Ingest.Navigation
import Metering.Proofs.Json.Codec
import Metering.Proofs.Meter.Document
import Metering.Proofs.Query.Bounds
import Metering.Proofs.Query.Conditions
import Metering.Proofs.Query.Parameters
import Metering.Proofs.Query.Paths
import Metering.Proofs.Query.Placeholders
import Metering.Proofs.Query.RollUp
import Metering.Proofs.Query.Scanned
import Metering.Proofs.Query.Sources
import Metering.Proofs.Registry.Agreement
import Metering.Proofs.Registry.Freshness
import Metering.Proofs.Registry.Lookup
import Metering.Proofs.Retry.Schedule
import Metering.Proofs.Window.Order
import Metering.Query.Statement
import Metering.Report.Setup
