import SchedTelemetry.Event.Decode
import SchedTelemetry.Record
import SchedTelemetry.Switches
import SchedTelemetry.SymbolTable
import SchedTelemetry.TaskFilter

set_option autoImplicit false

namespace SchedTelemetry

structure Setup where
  switches : Switches
  filter : TaskFilter
  symbols : SymbolTable

instance : Inhabited Setup := ⟨⟨.none, .empty, .empty⟩⟩

abbrev Reading (σ : Type) := Switch × σ × Option UInt64

def counters {σ : Type} (s : Switches) (track : σ → Track) (readings : List (Reading σ)) :
    List Observation :=
  readings.filterMap fun (x, signal, value?) =>
    -- A value is recorded as the signed number with the same bits.
    if s.isOn x then value?.map (fun v => .counter (track signal) v.toInt64) else none

def RqPelt.readings (e : RqPelt) : List (Reading CpuSignal) :=
  let p := e.pelt
  match e.peltClass with
  | .fair =>
    [(.loadAvgCpu, .loadAvg, p.loadAvg),
      (.runnableAvgCpu, .runnableAvg, p.runnableAvg),
      (.utilAvgCpu, .utilAvg, p.utilAvg),
      (.utilAvgCpu, .uclampedAvg, p.uclampedAvg),
      (.utilEstCpu, .utilEstEnqueued, p.utilEstEnqueued)]
  | .rt => [(.utilAvgRt, .utilAvgRt, p.utilAvg)]
  | .dl => [(.utilAvgDl, .utilAvgDl, p.utilAvg)]
  | .irq => [(.utilAvgIrq, .utilAvgIrq, p.utilAvg)]
  | .thermal => [(.loadAvgThermal, .loadAvgThermal, p.loadAvg)]
  | .unknown _ => []

def RqPelt.observations (setup : Setup) (e : RqPelt) : List Observation :=
  counters setup.switches (.cpu e.cpu) e.readings

def TaskPelt.readings (e : TaskPelt) : List (Reading TaskSignal) :=
  let p := e.pelt
  [(.loadAvgTask, .loadAvg, p.loadAvg),
    (.runnableAvgTask, .runnableAvg, p.runnableAvg),
    (.utilAvgTask, .utilAvg, p.utilAvg),
    (.utilAvgTask, .uclampedAvg, p.uclampedAvg),
    (.utilEstTask, .utilEstEnqueued, p.utilEstEnqueued),
    -- The moving average means something only beside an enqueued estimate.
    (.utilEstTask, .utilEstEwma, p.utilEstEnqueued.bind (fun _ => e.utilEstEwma))]

def TaskPelt.observations (setup : Setup) (e : TaskPelt) : List Observation :=
  if setup.filter.accepts e.pid e.name.text then
    counters setup.switches (.task e.name.text e.pid) e.readings
  else []

def NrRunning.observations (setup : Setup) (e : NrRunning) : List Observation :=
  if setup.switches.isOn .nrRunning then
    [.counter (.cpu e.cpu .nrRunning) e.nrRunning.toInt64]
  else []

-- A task that stops running has its signals put to zero, lest its tracks stay on their last values.
def SchedSwitch.readings (e : SchedSwitch) : List (Reading TaskSignal) :=
  if e.running then []
  else
    -- The runnable average is not among them.
    [(.loadAvgTask, .loadAvg, some 0),
      (.utilAvgTask, .utilAvg, some 0),
      (.utilAvgTask, .uclampedAvg, some 0),
      (.utilEstTask, .utilEstEnqueued, some 0),
      (.utilEstTask, .utilEstEwma, some 0)]

def SchedSwitch.observations (setup : Setup) (e : SchedSwitch) : List Observation :=
  if setup.filter.accepts e.pid e.name.text then
    counters setup.switches (.task e.name.text e.pid) e.readings
  else []

def FreqIdle.observations (setup : Setup) (e : FreqIdle) : List Observation :=
  if setup.switches.isOn .idle then
    -- State -1 is the exit from idle and is recorded like any other.
    .counter (.cpu e.cpu .idle) e.idleState.toInt64 ::
      if e.idleMiss = 0 then [] else [.counter (.cpu e.cpu .idleMiss) e.idleMiss.toInt64]
  else []

def LoadBalance.statsPart (e : LoadBalance) : List Observation :=
  -- Statistics come only with an entry into the rebalancing of domains.
  if e.phase = .rebalanceDomains ∧ e.entry then [.domains e.stats] else []

def LoadBalance.overloadedPart (e : LoadBalance) : List Observation :=
  (e.overloaded.map (fun v => Observation.counter .overloaded v.toInt64)).toList

def LoadBalance.overutilizedPart (e : LoadBalance) : List Observation :=
  (e.overutilized.map (fun v => Observation.counter .overutilized v.toInt64)).toList

def LoadBalance.misfitPart (e : LoadBalance) : List Observation :=
  match e.misfitTaskLoad, cpuNumber? e.lbCpu with
  | some load, some cpu => [.counter (.cpu cpu .misfit) load.toInt64]
  | _, _ => []

def LoadBalance.marker (e : LoadBalance) : Observation :=
  if e.entry then .balanceEntry e.thisCpu e.lbCpu e.phase.label
  else .balanceExit e.thisCpu e.lbCpu

def LoadBalance.observations (setup : Setup) (e : LoadBalance) : List Observation :=
  if setup.switches.isOn .loadBalance then
    e.statsPart ++ e.overloadedPart ++ e.overutilizedPart ++ e.misfitPart ++ [e.marker]
  else []

def SymbolTable.locate (t : SymbolTable) (address : UInt64) : CodeAddress :=
  ⟨address, t.resolve address⟩

def Ipi.observations (setup : Setup) (e : Ipi) : List Observation :=
  if setup.switches.isOn .ipi then
    [.ipi e.fromCpu e.targetCpu (setup.symbols.locate e.callsite) (setup.symbols.locate e.callback)]
  else []

def Event.observations (setup : Setup) : Event → List Observation
  | .rqPelt e => e.observations setup
  | .taskPelt e => e.observations setup
  | .nrRunning e => e.observations setup
  | .schedSwitch e => e.observations setup
  | .freqIdle e => e.observations setup
  | .loadBalance e => e.observations setup
  | .ipi e => e.observations setup

def Event.records (setup : Setup) (e : Event) : List Record :=
  (e.observations setup).map (fun o => ⟨e.ts, o⟩)

end SchedTelemetry
