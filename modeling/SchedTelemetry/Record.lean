import SchedTelemetry.Event
import SchedTelemetry.Text.Numeral

set_option autoImplicit false

namespace SchedTelemetry

inductive CpuSignal where
  | loadAvg
  | runnableAvg
  | utilAvg
  | uclampedAvg
  | utilAvgRt
  | utilAvgDl
  | utilAvgIrq
  | loadAvgThermal
  | utilEstEnqueued
  | nrRunning
  | idle
  | idleMiss
  | misfit
  deriving DecidableEq, Repr

namespace CpuSignal

def all : List CpuSignal :=
  [.loadAvg, .runnableAvg, .utilAvg, .uclampedAvg, .utilAvgRt, .utilAvgDl, .utilAvgIrq,
    .loadAvgThermal, .utilEstEnqueued, .nrRunning, .idle, .idleMiss, .misfit]

def name : CpuSignal → String
  | .loadAvg => "load_avg"
  | .runnableAvg => "runnable_avg"
  | .utilAvg => "util_avg"
  | .uclampedAvg => "uclamped_avg"
  | .utilAvgRt => "util_avg_rt"
  | .utilAvgDl => "util_avg_dl"
  | .utilAvgIrq => "util_avg_irq"
  | .loadAvgThermal => "load_avg_thermal"
  | .utilEstEnqueued => "util_est.enqueued"
  | .nrRunning => "nr_running"
  | .idle => "idle_state"
  | .idleMiss => "idle_miss"
  | .misfit => "misfit_task_load"

def key : CpuSignal → String
  | .loadAvg => "load_avg"
  | .runnableAvg => "runnable_avg"
  | .utilAvg => "util_avg"
  | .uclampedAvg => "uclamped_avg"
  | .utilAvgRt => "util_avg_rt"
  | .utilAvgDl => "util_avg_dl"
  | .utilAvgIrq => "util_avg_irq"
  | .loadAvgThermal => "load_avg_thermal"
  | .utilEstEnqueued => "util_est_enqueued"
  | .nrRunning => "nr_running"
  | .idle => "idle"
  | .idleMiss => "idle_miss"
  | .misfit => "misfit"

def ofKey? (k : String) : Option CpuSignal :=
  all.find? (fun x => x.key == k)

end CpuSignal

inductive TaskSignal where
  | loadAvg
  | runnableAvg
  | utilAvg
  | uclampedAvg
  | utilEstEnqueued
  | utilEstEwma
  deriving DecidableEq, Repr

namespace TaskSignal

def all : List TaskSignal :=
  [.loadAvg, .runnableAvg, .utilAvg, .uclampedAvg, .utilEstEnqueued, .utilEstEwma]

def name : TaskSignal → String
  | .loadAvg => "load_avg"
  | .runnableAvg => "runnable_avg"
  | .utilAvg => "util_avg"
  | .uclampedAvg => "uclamped_avg"
  | .utilEstEnqueued => "util_est.enqueued"
  | .utilEstEwma => "util_est.ewma"

def key : TaskSignal → String
  | .loadAvg => "load_avg"
  | .runnableAvg => "runnable_avg"
  | .utilAvg => "util_avg"
  | .uclampedAvg => "uclamped_avg"
  | .utilEstEnqueued => "util_est_enqueued"
  | .utilEstEwma => "util_est_ewma"

def ofKey? (k : String) : Option TaskSignal :=
  all.find? (fun x => x.key == k)

end TaskSignal

inductive Track where
  | cpu (cpu : UInt32) (signal : CpuSignal)
  | task (name : String) (pid : Int32) (signal : TaskSignal)
  | overloaded
  | overutilized
  deriving DecidableEq

def cpuLabel (cpu : Int) : String :=
  "CPU" ++ Numeral.decimal cpu

def Track.name : Track → String
  | .cpu c signal => cpuLabel c.toNat ++ " " ++ signal.name
  | .task name pid signal => name ++ "-" ++ Numeral.decimal pid.toInt ++ " " ++ signal.name
  | .overloaded => "overloaded"
  | .overutilized => "overutilized"

structure CodeAddress where
  address : UInt64
  name : Option String
  deriving DecidableEq

inductive Observation where
  | counter (track : Track) (value : Int64)
  | balanceEntry (thisCpu lbCpu : Int32) (phase : String)
  | balanceExit (thisCpu lbCpu : Int32)
  | domains (stats : DomainStats)
  | ipi (fromCpu targetCpu : Int32) (callsite callback : CodeAddress)
  deriving DecidableEq

structure Record where
  ts : UInt64
  observation : Observation
  deriving DecidableEq

def Record.track? (r : Record) : Option Track :=
  match r.observation with
  | .counter track _ => some track
  | _ => none

end SchedTelemetry
