import SchedTelemetry.CommandLine
import SchedTelemetry.OutputFile
import SchedTelemetry.TaskFilter

set_option autoImplicit false

namespace SchedTelemetry

structure Configuration where
  switches : Switches
  filter : TaskFilter
  output : OutputFile
  format : TraceFormat
  probeObject : String
  pollTimeout : Duration
  pollInterval : Duration
  batchSize : Nat
  verbose : Bool

namespace Configuration

def ofCommandLine (c : CommandLine) : Configuration where
  switches := c.switches
  filter := ⟨c.pids, c.taskNames⟩
  output := ⟨c.outputDirectory, c.output, c.format⟩
  format := c.format
  probeObject := c.probeObject
  pollTimeout := c.pollTimeout.getD CommandLine.defaultPollTimeout
  pollInterval := c.pollInterval.getD CommandLine.defaultPollInterval
  batchSize := max c.batchSize 1
  verbose := c.verbose

def standard : Configuration := ofCommandLine .unadorned

def shutdownLatency? (c : Configuration) : Option Duration :=
  c.pollTimeout.add? c.pollInterval

end Configuration

end SchedTelemetry
