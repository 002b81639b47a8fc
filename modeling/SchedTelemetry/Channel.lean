set_option autoImplicit false

namespace SchedTelemetry

inductive Channel where
  | rqPelt
  | taskPelt
  | nrRunning
  | schedSwitch
  | freqIdle
  | loadBalance
  | ipi
  deriving DecidableEq, Repr

namespace Channel

def all : List Channel :=
  [.rqPelt, .taskPelt, .nrRunning, .schedSwitch, .freqIdle, .loadBalance, .ipi]

theorem mem_all (c : Channel) : c ∈ all := by
  cases c <;> decide

def name : Channel → String
  | .rqPelt => "rq_pelt"
  | .taskPelt => "task_pelt"
  | .nrRunning => "rq_nr_running"
  | .schedSwitch => "sched_switch"
  | .freqIdle => "freq_idle"
  | .loadBalance => "lb"
  | .ipi => "ipi"

def ofName? (n : String) : Option Channel :=
  all.find? (fun c => c.name == n)

def bufferName (c : Channel) : String :=
  c.name ++ "_rb"

def recordSize : Channel → Nat
  | .rqPelt => 64
  | .taskPelt => 88
  | .nrRunning => 16
  | .schedSwitch => 32
  | .freqIdle => 24
  | .loadBalance => 96
  | .ipi => 32

end Channel

structure PerChannel (α : Type) where
  rqPelt : α
  taskPelt : α
  nrRunning : α
  schedSwitch : α
  freqIdle : α
  loadBalance : α
  ipi : α

namespace PerChannel

variable {α β : Type}

def get (v : PerChannel α) : Channel → α
  | .rqPelt => v.rqPelt
  | .taskPelt => v.taskPelt
  | .nrRunning => v.nrRunning
  | .schedSwitch => v.schedSwitch
  | .freqIdle => v.freqIdle
  | .loadBalance => v.loadBalance
  | .ipi => v.ipi

def set (v : PerChannel α) (c : Channel) (a : α) : PerChannel α :=
  match c with
  | .rqPelt => { v with rqPelt := a }
  | .taskPelt => { v with taskPelt := a }
  | .nrRunning => { v with nrRunning := a }
  | .schedSwitch => { v with schedSwitch := a }
  | .freqIdle => { v with freqIdle := a }
  | .loadBalance => { v with loadBalance := a }
  | .ipi => { v with ipi := a }

def ofFn (f : Channel → α) : PerChannel α :=
  ⟨f .rqPelt, f .taskPelt, f .nrRunning, f .schedSwitch, f .freqIdle, f .loadBalance, f .ipi⟩

@[simp] theorem get_ofFn (f : Channel → α) (c : Channel) : (ofFn f).get c = f c := by
  cases c <;> rfl

@[simp] theorem get_set_self (v : PerChannel α) (c : Channel) (a : α) : (v.set c a).get c = a := by
  cases c <;> rfl

theorem get_set_of_ne (v : PerChannel α) {c d : Channel} (a : α) (h : d ≠ c) :
    (v.set c a).get d = v.get d := by
  cases c <;> cases d <;> first | rfl | exact absurd rfl h

theorem get_set (v : PerChannel α) (c d : Channel) (a : α) :
    (v.set c a).get d = if d = c then a else v.get d := by
  by_cases h : d = c
  · simp [h]
  · simp [h, get_set_of_ne]

end PerChannel

end SchedTelemetry
