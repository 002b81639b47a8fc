import SchedTelemetry.Record
import SchedTelemetry.Switches
import SchedTelemetry.TaskFilter

set_option autoImplicit false

namespace SchedTelemetry

def CpuSignal.switch : CpuSignal → Switch
  | .loadAvg => .loadAvgCpu
  | .runnableAvg => .runnableAvgCpu
  | .utilAvg => .utilAvgCpu
  | .uclampedAvg => .utilAvgCpu
  | .utilAvgRt => .utilAvgRt
  | .utilAvgDl => .utilAvgDl
  | .utilAvgIrq => .utilAvgIrq
  | .loadAvgThermal => .loadAvgThermal
  | .utilEstEnqueued => .utilEstCpu
  | .nrRunning => .nrRunning
  | .idle => .idle
  | .idleMiss => .idle
  | .misfit => .loadBalance

def TaskSignal.switch : TaskSignal → Switch
  | .loadAvg => .loadAvgTask
  | .runnableAvg => .runnableAvgTask
  | .utilAvg => .utilAvgTask
  | .uclampedAvg => .utilAvgTask
  | .utilEstEnqueued => .utilEstTask
  | .utilEstEwma => .utilEstTask

def Track.switch : Track → Switch
  | .cpu _ signal => signal.switch
  | .task _ _ signal => signal.switch
  | .overloaded => .loadBalance
  | .overutilized => .loadBalance

def Observation.switch : Observation → Switch
  | .counter track _ => track.switch
  | .balanceEntry .. => .loadBalance
  | .balanceExit .. => .loadBalance
  | .domains _ => .loadBalance
  | .ipi .. => .ipi

def Observation.passes (f : TaskFilter) : Observation → Bool
  | .counter (.task name pid _) _ => f.accepts pid name
  -- Only records on a task's track are subject to a filter.
  | _ => true

-- Whether a record belongs into a trace with these switches and this filter.
def Record.belongs (s : Switches) (f : TaskFilter) (r : Record) : Bool :=
  s.isOn r.observation.switch && r.observation.passes f

end SchedTelemetry
