import Telemetry.Proofs.Collector.Acknowledgement
import Telemetry.Proofs.Collector.AgentQueries
import Telemetry.Proofs.Collector.Exchange
import Telemetry.Proofs.Collector.Ingestion
import Telemetry.Proofs.Collector.Isolation
import Telemetry.Proofs.Collector.Outages
import Telemetry.Proofs.Collector.PrefixScans
import Telemetry.Proofs.Collector.RecentTraces
import Telemetry.Proofs.Collector.Registrations
import Telemetry.Proofs.Collector.StoredBatches
import Telemetry.Proofs.Delivery.Backoff
import Telemetry.Proofs.Delivery.Blocking
import Telemetry.Proofs.Delivery.Closing
import Telemetry.Proofs.Delivery.Lifecycle
import Telemetry.Proofs.Delivery.Punctuality
import Telemetry.Proofs.Delivery.Retrying
import Telemetry.Proofs.Delivery.Stopping
import Telemetry.Proofs.Delivery.Timeouts
import Telemetry.Proofs.Message.SelfDelimiting
import Telemetry.Proofs.Rehearsal.Loopback
import Telemetry.Proofs.RowKey.BucketScans
import Telemetry.Proofs.RowKey.Identity
import Telemetry.Proofs.RowKey.StatRows
import Telemetry.Proofs.Stat.Header
import Telemetry.Proofs.Trace.Shortest
import Telemetry.Proofs.Trace.TransactionText
import Telemetry.Proofs.Wire.Numerals
import Telemetry.Proofs.Wire.PaddedText
import Telemetry.Rehearsal.Reconnects
import Telemetry.Rehearsal.Stage
import Telemetry.Rehearsal.TimerPlan
