import SchedTelemetry.Attribution
import SchedTelemetry.Event.Encode
import SchedTelemetry.Files
import SchedTelemetry.Main
import SchedTelemetry.Perfetto.Read
import SchedTelemetry.ProbeOptions
import SchedTelemetry.Probes
import SchedTelemetry.Proofs.Isolation
import SchedTelemetry.Proofs.PacketLayout
import SchedTelemetry.Proofs.RecordReading
import SchedTelemetry.Proofs.Selection
import SchedTelemetry.Record.Read
import SchedTelemetry.Text.Quoted
import SchedTelemetry.Proofs.Requests
import SchedTelemetry.Proofs.RecordLayout
import SchedTelemetry.Collector.Lifecycle
import SchedTelemetry.Proofs.Lifecycle
import SchedTelemetry.Proofs.SetupFailure
import SchedTelemetry.Proofs.TrackNames
import SchedTelemetry.Proofs.WellFormed
import SchedTelemetry.Proofs.PeltCounters
import SchedTelemetry.Proofs.PhaseHistory
import SchedTelemetry.Proofs.BalanceRecords
import SchedTelemetry.Proofs.TaskTracks
import SchedTelemetry.Proofs.SymbolLookup
import SchedTelemetry.Proofs.TaskNames
import SchedTelemetry.Proofs.ProbeFilter
import SchedTelemetry.Proofs.PollLoop
import SchedTelemetry.Proofs.ArgumentOrder
import SchedTelemetry.Proofs.QueuedWriting
import SchedTelemetry.Proofs.Overrun
