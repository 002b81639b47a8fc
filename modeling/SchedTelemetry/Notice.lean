import SchedTelemetry.Event.Decode
import SchedTelemetry.Phases

set_option autoImplicit false

namespace SchedTelemetry

inductive Severity where
  | error
  | warn
  | info
  | debug
  deriving DecidableEq, Repr

def Severity.name : Severity → String
  | .error => "error"
  | .warn => "warn"
  | .info => "info"
  | .debug => "debug"

structure Tally where
  decoded : Nat
  malformed : Nat
  deriving DecidableEq, Inhabited, Repr

def Tally.zero : Tally := ⟨0, 0⟩

def Tally.total (t : Tally) : Nat := t.decoded + t.malformed

inductive Notice where
  | skipped (cause : DecodeError)
  | unexpectedPelt (tag : Int32) (cpu : UInt32)
  | misfitOnInvalidCpu (cpu : Int32)
  | exitWithoutEntry (key : PhaseKey)
  | stillOpen (key : PhaseKey) (since : UInt64)
  | channelDone (channel : Channel) (tally : Tally)
  | workerDone (channel : Channel) (polls interrupted : Nat) (tally : Tally)
  | openFailed (channel : Channel) (cause : String)
  | pollFailed (channel : Channel) (cause : String)
  | workerPanicked (channel : Channel)
  | recordsDropped
  | traceWritten (records : Nat)
  | traceWriteFailed (cause : String)
  | traceCloseFailed (cause : String)
  | symbolsLoaded (count : Nat) (path : String)
  | filterCut (capacity : Nat)
  deriving DecidableEq

def PhaseKey.describe (k : PhaseKey) (doing : String) : String :=
  k.phase.label ++ doing ++ "CPU" ++ Numeral.decimal k.thisCpu.toInt ++ "/CPU"
    ++ Numeral.decimal k.lbCpu.toInt

namespace Notice

def severity : Notice → Severity
  | .skipped (.tooShort ..) => .warn
  | .skipped (.invalidCpu ..) => .debug
  | .unexpectedPelt .. => .warn
  | .openFailed .. => .error
  | .pollFailed .. => .error
  | .workerPanicked .. => .error
  | .recordsDropped => .warn
  | .traceWriteFailed .. => .error
  | .traceCloseFailed .. => .warn
  | .filterCut .. => .warn
  | .misfitOnInvalidCpu .. => .debug
  | .exitWithoutEntry .. => .debug
  | .stillOpen .. => .debug
  | .channelDone .. => .debug
  | .workerDone .. => .debug
  | .traceWritten .. => .debug
  | .symbolsLoaded .. => .debug

def message : Notice → String
  | .skipped cause => "Skipping record: " ++ cause.message
  | .unexpectedPelt tag cpu =>
    "Unexpected PELT type " ++ Numeral.decimal tag.toInt ++ " on CPU" ++ Numeral.count cpu.toNat
  | .misfitOnInvalidCpu cpu =>
    "misfit_task_load reported for invalid CPU " ++ Numeral.decimal cpu.toInt
  | .exitWithoutEntry key => key.describe " exit without entry on "
  | .stillOpen key since =>
    key.describe " still open on " ++ " since " ++ Numeral.count since.toNat
  | .channelDone channel tally =>
    channel.name ++ ": " ++ Numeral.count tally.decoded ++ " records decoded, "
      ++ Numeral.count tally.malformed ++ " malformed"
  | .workerDone channel polls interrupted tally =>
    channel.name ++ ": " ++ Numeral.count polls ++ " polls (" ++ Numeral.count interrupted
      ++ " interrupted), " ++ Numeral.count tally.decoded ++ " records, "
      ++ Numeral.count tally.malformed ++ " malformed"
  | .openFailed channel cause => channel.name ++ ": failed to open channel: " ++ cause
  | .pollFailed channel cause => channel.name ++ ": polling failed: " ++ cause
  | .workerPanicked channel => channel.name ++ ": worker thread panicked"
  | .recordsDropped => "trace writer is gone, dropping records"
  | .traceWritten records => Numeral.count records ++ " trace records written"
  | .traceWriteFailed cause => "Failed to write the trace: " ++ cause
  | .traceCloseFailed cause => "Failed to close the trace: " ++ cause
  | .symbolsLoaded count path =>
    Numeral.count count ++ " kernel symbols loaded from " ++ path
  | .filterCut capacity =>
    "Only the first " ++ Numeral.count capacity ++ " pid and comm filters are applied"

def line (n : Notice) : String :=
  n.severity.name ++ ": " ++ n.message

end Notice

end SchedTelemetry
