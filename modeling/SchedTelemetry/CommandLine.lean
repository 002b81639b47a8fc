import SchedTelemetry.Duration.Read
import SchedTelemetry.Switches
import SchedTelemetry.TraceFormat

set_option autoImplicit false

namespace SchedTelemetry

-- A flag stands alone. A setting takes a value, as `--name value`, `--name=value`, `-n value`,
-- `-nvalue` or `-n=value`, and short flags may share one dash. A value that starts with a dash has
-- to be attached, unless it is the dash alone.
inductive Flag where
  | switch (x : Switch)
  | verbose
  | help
  | version
  deriving DecidableEq

inductive Setting where
  | pid
  | taskName
  | output
  | outputDirectory
  | format
  | probeObject
  | pollTimeout
  | pollInterval
  | batchSize
  deriving DecidableEq

def Switch.flagName : Switch → String
  | .loadAvgCpu => "cpu-load-avg"
  | .runnableAvgCpu => "cpu-runnable-avg"
  | .utilAvgCpu => "cpu-util-avg"
  | .utilAvgRt => "cpu-util-avg-rt"
  | .utilAvgDl => "cpu-util-avg-dl"
  | .utilAvgIrq => "cpu-util-avg-irq"
  | .loadAvgThermal => "cpu-load-avg-thermal"
  | .utilEstCpu => "cpu-util-est"
  | .loadAvgTask => "task-load-avg"
  | .runnableAvgTask => "task-runnable-avg"
  | .utilAvgTask => "task-util-avg"
  | .utilEstTask => "task-util-est"
  | .nrRunning => "cpu-nr-running"
  | .idle => "cpu-idle"
  | .loadBalance => "load-balance"
  | .ipi => "ipi"

namespace Flag

def all : List Flag :=
  Switch.all.map .switch ++ [.verbose, .help, .version]

def name : Flag → String
  | .switch x => x.flagName
  | .verbose => "verbose"
  | .help => "help"
  | .version => "version"

def ofName? (n : List Char) : Option Flag :=
  all.find? (fun f => f.name.toList == n)

def ofShort? (c : Char) : Option Flag :=
  if c = 'v' then some .verbose
  else if c = 'h' then some .help
  else if c = 'V' then some .version
  else none

end Flag

namespace Setting

def all : List Setting :=
  [.pid, .taskName, .output, .outputDirectory, .format, .probeObject, .pollTimeout, .pollInterval,
    .batchSize]

def name : Setting → String
  | .pid => "pid"
  | .taskName => "comm"
  | .output => "output"
  | .outputDirectory => "output-path"
  | .format => "format"
  | .probeObject => "bpf-obj"
  | .pollTimeout => "poll-timeout"
  | .pollInterval => "poll-interval"
  | .batchSize => "tx-batch-size"

def ofName? (n : List Char) : Option Setting :=
  all.find? (fun s => s.name.toList == n)

def ofShort? (c : Char) : Option Setting :=
  if c = 'o' then some .output else none

def isRepeatable : Setting → Bool
  | .pid => true
  | .taskName => true
  | _ => false

end Setting

inductive Refusal where
  | unknownArgument
  | missingValue
  | emptyPath
  | unknownFormat
  | badNumber
  | badDuration
  | repeated
  | unexpectedValue
  | helpRequested
  | versionRequested
  deriving DecidableEq, Repr

structure CommandLine where
  switches : Switches
  pids : List Int32
  taskNames : List String
  output : Option String
  outputDirectory : Option String
  format : TraceFormat
  probeObject : String
  pollTimeout : Option Duration
  pollInterval : Option Duration
  batchSize : Nat
  verbose : Bool

namespace CommandLine

def blank : CommandLine where
  switches := .none
  pids := []
  taskNames := []
  output := none
  outputDirectory := none
  format := .perfetto
  probeObject := ""
  pollTimeout := none
  pollInterval := none
  batchSize := 0
  verbose := false

def defaultProbeObject : String := "sched-analyzer.bpf.o"

def defaultBatchSize : Nat := 4096

def defaultPollTimeout : Duration := .ofMilliseconds 1000

def defaultPollInterval : Duration := .ofMilliseconds 10

def unadorned : CommandLine :=
  { blank with
    probeObject := defaultProbeObject
    pollTimeout := some defaultPollTimeout
    pollInterval := some defaultPollInterval
    batchSize := defaultBatchSize }

def pid? (value : List Char) : Option Int32 :=
  match Numeral.signed? 10 value with
  | some n => if Int32.minValue.toInt ≤ n ∧ n ≤ Int32.maxValue.toInt then some (Int32.ofInt n) else none
  | none => none

def size? (value : List Char) : Option Nat :=
  (Numeral.unsigned? 10 value).filter (· < UInt64.size)

def orRefuse {α : Type} (r : Refusal) : Option α → Except Refusal α
  | some a => .ok a
  | none => .error r

def path? (value : String) : Option String :=
  if value.isEmpty then none else some value

def set (c : CommandLine) (s : Setting) (value : String) : Except Refusal CommandLine :=
  match s with
  | .pid => (orRefuse .badNumber (pid? value.toList)).map fun p => { c with pids := c.pids ++ [p] }
  | .taskName => .ok { c with taskNames := c.taskNames ++ [value] }
  | .output => .ok { c with output := some value }
  | .outputDirectory =>
    (orRefuse .emptyPath (path? value)).map fun p => { c with outputDirectory := some p }
  | .format =>
    (orRefuse .unknownFormat (TraceFormat.ofName value false).toOption).map fun f =>
      { c with format := f }
  | .probeObject => (orRefuse .emptyPath (path? value)).map fun p => { c with probeObject := p }
  | .pollTimeout =>
    (orRefuse .badDuration (Duration.read? value.toList)).map fun d =>
      { c with pollTimeout := some d }
  | .pollInterval =>
    (orRefuse .badDuration (Duration.read? value.toList)).map fun d =>
      { c with pollInterval := some d }
  | .batchSize => (orRefuse .badNumber (size? value.toList)).map fun n => { c with batchSize := n }

def raise (c : CommandLine) : Flag → Except Refusal CommandLine
  | .switch x => .ok { c with switches := c.switches.turnOn x }
  | .verbose => .ok { c with verbose := true }
  | .help => .error .helpRequested
  | .version => .error .versionRequested

end CommandLine

/-- A setting whose value is not taken in yet: the value is checked when the next argument, or the
end, shows that it is complete. -/
structure Awaited where
  setting : Setting
  value : Option String

structure ArgumentReader where
  line : CommandLine
  flags : List Flag
  settings : List Setting
  awaited : Option Awaited
  onlyOperands : Bool

namespace ArgumentReader

def initial : ArgumentReader := ⟨.unadorned, [], [], none, false⟩

def assign (r : ArgumentReader) (s : Setting) (value : String) : Except Refusal ArgumentReader :=
  if !s.isRepeatable && r.settings.contains s then .error .repeated
  else (r.line.set s value).map fun line => { r with line, settings := s :: r.settings }

def settle (r : ArgumentReader) : Except Refusal ArgumentReader :=
  match r.awaited with
  | none => .ok r
  | some ⟨_, none⟩ => .error .missingValue
  | some ⟨s, some value⟩ => { r with awaited := none }.assign s value

def raise (r : ArgumentReader) (f : Flag) : Except Refusal ArgumentReader :=
  r.settle.bind fun r =>
    if r.flags.contains f then .error .repeated
    else (r.line.raise f).map fun line => { r with line, flags := f :: r.flags }

def attach (r : ArgumentReader) (s : Setting) (value : List Char) : Except Refusal ArgumentReader :=
  r.settle.bind fun r => r.assign s (String.ofList value)

def await (r : ArgumentReader) (s : Setting) : Except Refusal ArgumentReader :=
  r.settle.map fun r => { r with awaited := some ⟨s, none⟩ }

def splitValue (cs : List Char) : List Char × Option (List Char) :=
  match cs.dropWhile (· != '=') with
  | [] => (cs, none)
  | _ :: value => (cs.takeWhile (· != '='), some value)

def readLong (r : ArgumentReader) (cs : List Char) : Except Refusal ArgumentReader :=
  -- An unknown name is refused as such even after a value that would be refused too.
  let (name, value?) := splitValue cs
  match Flag.ofName? name, Setting.ofName? name, value? with
  | some f, _, none => r.raise f
  | some _, _, some _ => .error .unexpectedValue
  | none, some s, none => r.await s
  | none, some s, some value => r.attach s value
  | none, none, _ => .error .unknownArgument

def readShort (r : ArgumentReader) : List Char → Except Refusal ArgumentReader
  | [] => .ok r
  | c :: rest =>
    match Flag.ofShort? c, Setting.ofShort? c with
    | some f, _ => (r.raise f).bind fun r => r.readShort rest
    | none, some s =>
      match rest with
      | [] => r.await s
      | '=' :: value => r.attach s value
      | value => r.attach s value
    | none, none => .error .unknownArgument

def readOperand (r : ArgumentReader) (arg : String) : Except Refusal ArgumentReader :=
  match r.awaited with
  -- An argument that is not an option can only be the value of the setting before it.
  | some ⟨s, none⟩ => .ok { r with awaited := some ⟨s, some arg⟩ }
  | _ => .error .unknownArgument

def read (r : ArgumentReader) (arg : String) : Except Refusal ArgumentReader :=
  if r.onlyOperands then .error .unknownArgument
  else
    match arg.toList with
    | ['-', '-'] => .ok { r with onlyOperands := true }
    | '-' :: '-' :: rest => r.readLong rest
    | '-' :: c :: rest => r.readShort (c :: rest)
    | _ => r.readOperand arg

end ArgumentReader

def CommandLine.read (args : List String) : Except Refusal CommandLine :=
  ((args.foldlM ArgumentReader.read ArgumentReader.initial).bind ArgumentReader.settle).map (·.line)

end SchedTelemetry
