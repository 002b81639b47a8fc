set_option autoImplicit false

namespace SchedTelemetry

inductive Switch where
  | loadAvgCpu
  | runnableAvgCpu
  | utilAvgCpu
  | utilAvgRt
  | utilAvgDl
  | utilAvgIrq
  | loadAvgThermal
  | utilEstCpu
  | loadAvgTask
  | runnableAvgTask
  | utilAvgTask
  | utilEstTask
  | nrRunning
  | idle
  | loadBalance
  | ipi
  deriving DecidableEq, Repr

namespace Switch

-- Every switch, in the order the probes lay them out.
def all : List Switch :=
  [.loadAvgCpu, .runnableAvgCpu, .utilAvgCpu, .utilAvgRt, .utilAvgDl, .utilAvgIrq, .loadAvgThermal,
    .utilEstCpu, .loadAvgTask, .runnableAvgTask, .utilAvgTask, .utilEstTask, .nrRunning, .idle,
    .loadBalance, .ipi]

theorem mem_all (x : Switch) : x ∈ all := by
  cases x <;> decide

def name : Switch → String
  | .loadAvgCpu => "load_avg_cpu"
  | .runnableAvgCpu => "runnable_avg_cpu"
  | .utilAvgCpu => "util_avg_cpu"
  | .utilAvgRt => "util_avg_rt"
  | .utilAvgDl => "util_avg_dl"
  | .utilAvgIrq => "util_avg_irq"
  | .loadAvgThermal => "load_avg_thermal"
  | .utilEstCpu => "util_est_cpu"
  | .loadAvgTask => "load_avg_task"
  | .runnableAvgTask => "runnable_avg_task"
  | .utilAvgTask => "util_avg_task"
  | .utilEstTask => "util_est_task"
  | .nrRunning => "cpu_nr_running"
  | .idle => "cpu_idle"
  | .loadBalance => "load_balance"
  | .ipi => "ipi"

def ofName? (n : String) : Option Switch :=
  all.find? (fun x => x.name == n)

def perTask : List Switch :=
  [.loadAvgTask, .runnableAvgTask, .utilAvgTask, .utilEstTask]

end Switch

@[ext] structure Switches where
  isOn : Switch → Bool

namespace Switches

def none : Switches := ⟨fun _ => false⟩

def every : Switches := ⟨fun _ => true⟩

instance : Inhabited Switches := ⟨none⟩

def turnOn (s : Switches) (x : Switch) : Switches :=
  ⟨fun y => y == x || s.isOn y⟩

def ofList (xs : List Switch) : Switches :=
  ⟨fun x => xs.contains x⟩

def toList (s : Switches) : List Switch :=
  Switch.all.filter s.isOn

def any (s : Switches) : Bool :=
  Switch.all.any s.isOn

def anyTask (s : Switches) : Bool :=
  Switch.perTask.any s.isOn

@[simp] theorem isOn_turnOn (s : Switches) (x y : Switch) :
    (s.turnOn x).isOn y = (y == x || s.isOn y) := rfl

@[simp] theorem ofList_toList (s : Switches) : ofList s.toList = s := by
  ext x
  simp [ofList, toList, Switch.mem_all]

end Switches

end SchedTelemetry
