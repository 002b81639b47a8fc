import SchedTelemetry.Channel
import SchedTelemetry.TaskName

set_option autoImplicit false

namespace SchedTelemetry

inductive PeltClass where
  | fair
  | rt
  | dl
  | irq
  | thermal
  | unknown (tag : Int32)
  deriving DecidableEq, Repr

def PeltClass.ofTag (tag : Int32) : PeltClass :=
  if tag = 0 then .fair
  else if tag = 1 then .rt
  else if tag = 2 then .dl
  else if tag = 3 then .irq
  else if tag = 4 then .thermal
  else .unknown tag

def PeltClass.tag : PeltClass → Int32
  | .fair => 0
  | .rt => 1
  | .dl => 2
  | .irq => 3
  | .thermal => 4
  | .unknown tag => tag

structure PeltSignals where
  loadAvg : Option UInt64
  runnableAvg : Option UInt64
  utilAvg : Option UInt64
  uclampMin : Option UInt64
  uclampMax : Option UInt64
  utilEstEnqueued : Option UInt64
  deriving DecidableEq, Inhabited

def PeltSignals.uclampedAvg (p : PeltSignals) : Option UInt64 :=
  match p.utilAvg, p.uclampMin, p.uclampMax with
  -- Where the clamps cross, the lower one wins.
  | some util, some low, some high => some (max (min util high) low)
  | _, _, _ => none

structure RqPelt where
  ts : UInt64
  cpu : UInt32
  peltClass : PeltClass
  pelt : PeltSignals
  deriving DecidableEq

structure TaskPelt where
  ts : UInt64
  pid : Int32
  name : TaskName
  pelt : PeltSignals
  utilEstEwma : Option UInt64
  deriving DecidableEq

structure NrRunning where
  ts : UInt64
  cpu : UInt32
  nrRunning : Int32
  deriving DecidableEq

structure SchedSwitch where
  ts : UInt64
  pid : Int32
  name : TaskName
  running : Bool
  deriving DecidableEq

-- `idleMiss` is zero when the idle state was chosen well, otherwise the direction of the miss.
structure FreqIdle where
  ts : UInt64
  cpu : UInt32
  idleState : Int32
  idleMiss : Int32
  deriving DecidableEq

inductive BalancePhase where
  | nohzIdleBalance
  | runRebalanceDomains
  | rebalanceDomains
  | balanceFair
  | pickNextTaskFair
  | newidleBalance
  | loadBalance
  | unknown (id : Int32)
  deriving DecidableEq, Repr

def BalancePhase.ofId (id : Int32) : BalancePhase :=
  if id = 0 then .nohzIdleBalance
  else if id = 1 then .runRebalanceDomains
  else if id = 2 then .rebalanceDomains
  else if id = 3 then .balanceFair
  else if id = 4 then .pickNextTaskFair
  else if id = 5 then .newidleBalance
  else if id = 6 then .loadBalance
  else .unknown id

def BalancePhase.id : BalancePhase → Int32
  | .nohzIdleBalance => 0
  | .runRebalanceDomains => 1
  | .rebalanceDomains => 2
  | .balanceFair => 3
  | .pickNextTaskFair => 4
  | .newidleBalance => 5
  | .loadBalance => 6
  | .unknown id => id

def BalancePhase.label : BalancePhase → String
  | .nohzIdleBalance => "_nohz_idle_balance()"
  | .runRebalanceDomains => "run_rebalance_domains()"
  | .rebalanceDomains => "rebalance_domains()"
  | .balanceFair => "balance_fair()"
  | .pickNextTaskFair => "pick_next_task_fair()"
  | .newidleBalance => "newidle_balance()"
  | .loadBalance => "load_balance()"
  | .unknown _ => "unknown"

structure DomainLevel where
  name : String
  balanceInterval : UInt64
  deriving DecidableEq

structure DomainStats where
  cpu : Int32
  levels : List DomainLevel
  deriving DecidableEq, Inhabited

structure LoadBalance where
  ts : UInt64
  phase : BalancePhase
  thisCpu : Int32
  lbCpu : Int32
  entry : Bool
  overloaded : Option Int32
  overutilized : Option Int32
  misfitTaskLoad : Option UInt64
  stats : DomainStats
  deriving DecidableEq

structure Ipi where
  ts : UInt64
  fromCpu : Int32
  targetCpu : Int32
  callsite : UInt64
  callback : UInt64
  deriving DecidableEq

inductive Event where
  | rqPelt (e : RqPelt)
  | taskPelt (e : TaskPelt)
  | nrRunning (e : NrRunning)
  | schedSwitch (e : SchedSwitch)
  | freqIdle (e : FreqIdle)
  | loadBalance (e : LoadBalance)
  | ipi (e : Ipi)
  deriving DecidableEq

namespace Event

def channel : Event → Channel
  | .rqPelt _ => .rqPelt
  | .taskPelt _ => .taskPelt
  | .nrRunning _ => .nrRunning
  | .schedSwitch _ => .schedSwitch
  | .freqIdle _ => .freqIdle
  | .loadBalance _ => .loadBalance
  | .ipi _ => .ipi

def ts : Event → UInt64
  | .rqPelt e => e.ts
  | .taskPelt e => e.ts
  | .nrRunning e => e.ts
  | .schedSwitch e => e.ts
  | .freqIdle e => e.ts
  | .loadBalance e => e.ts
  | .ipi e => e.ts

end Event

end SchedTelemetry
