import SchedTelemetry.Configuration

set_option autoImplicit false

namespace SchedTelemetry

inductive Choice where
  | switch (x : Switch)
  | verbose
  | pid (pid : Int32)
  | taskName (name : String)
  | output (name : String)
  | outputDirectory (path : String)
  | format (f : TraceFormat)
  | probeObject (path : String)
  | pollTimeout (d : Duration)
  | pollInterval (d : Duration)
  | batchSize (n : Nat)

def Switch.lead : Switch → String
  | .loadAvgCpu => "--cpu-load-avg"
  | .runnableAvgCpu => "--cpu-runnable-avg"
  | .utilAvgCpu => "--cpu-util-avg"
  | .utilAvgRt => "--cpu-util-avg-rt"
  | .utilAvgDl => "--cpu-util-avg-dl"
  | .utilAvgIrq => "--cpu-util-avg-irq"
  | .loadAvgThermal => "--cpu-load-avg-thermal"
  | .utilEstCpu => "--cpu-util-est"
  | .loadAvgTask => "--task-load-avg"
  | .runnableAvgTask => "--task-runnable-avg"
  | .utilAvgTask => "--task-util-avg"
  | .utilEstTask => "--task-util-est"
  | .nrRunning => "--cpu-nr-running"
  | .idle => "--cpu-idle"
  | .loadBalance => "--load-balance"
  | .ipi => "--ipi"

namespace Choice

def lead : Choice → String
  | .switch x => x.lead
  | .verbose => "--verbose"
  | .pid _ => "--pid="
  | .taskName _ => "--comm="
  | .output _ => "--output="
  | .outputDirectory _ => "--output-path="
  | .format _ => "--format="
  | .probeObject _ => "--bpf-obj="
  | .pollTimeout _ => "--poll-timeout="
  | .pollInterval _ => "--poll-interval="
  | .batchSize _ => "--tx-batch-size="

def value : Choice → String
  | .switch _ => ""
  | .verbose => ""
  | .pid p => Numeral.decimal p.toInt
  | .taskName name => name
  | .output name => name
  | .outputDirectory path => path
  | .format .perfetto => "perfetto"
  | .format .json => "json"
  | .probeObject path => path
  | .pollTimeout d => Numeral.count d.nanoseconds ++ "ns"
  | .pollInterval d => Numeral.count d.nanoseconds ++ "ns"
  | .batchSize n => Numeral.count n

def argument (w : Choice) : String := w.lead ++ w.value

end Choice

namespace Configuration

variable (k : Configuration)

def pidChoices : List Choice := k.filter.pids.map .pid

def nameChoices : List Choice := k.filter.names.map .taskName

def onceChoices : List Choice :=
  k.switches.toList.map .switch
    ++ (k.output.name.map .output).toList
    ++ (k.output.directory.map .outputDirectory).toList
    ++ [.format k.format, .probeObject k.probeObject, .pollTimeout k.pollTimeout,
      .pollInterval k.pollInterval, .batchSize k.batchSize]
    ++ (if k.verbose then [.verbose] else [])

def choices : List Choice := k.pidChoices ++ k.nameChoices ++ k.onceChoices

def pidArguments : List String := k.pidChoices.map Choice.argument

def nameArguments : List String := k.nameChoices.map Choice.argument

def arguments : List String := k.choices.map Choice.argument

end Configuration

end SchedTelemetry
