import SchedTelemetry.Event
import SchedTelemetry.LittleEndian
import SchedTelemetry.Text.Numeral

set_option autoImplicit false

namespace SchedTelemetry

open LittleEndian

inductive DecodeError where
  | tooShort (channel : Channel) (size : Nat)
  | invalidCpu (channel : Channel) (cpu : Int32)
  deriving DecidableEq

def DecodeError.message : DecodeError → String
  | .tooShort channel size =>
    channel.name ++ " record too short: got " ++ Numeral.count size ++ " bytes, expected "
      ++ Numeral.count channel.recordSize
  | .invalidCpu channel cpu =>
    channel.name ++ " record for invalid CPU " ++ Numeral.decimal cpu.toInt

-- An unsigned field with all bits set, or a signed one that is -1, could not be read by the probe.
def unreadWord : UInt64 := 0xFFFFFFFFFFFFFFFF

def wordOrAbsent (x : UInt64) : Option UInt64 :=
  if x = unreadWord then none else some x

def intOrAbsent (x : Int32) : Option Int32 :=
  if x = -1 then none else some x

def cpuNumber? (cpu : Int32) : Option UInt32 :=
  if cpu < 0 then none else some cpu.toUInt32

namespace Event

def cpuOrError (channel : Channel) (cpu : Int32) : Except DecodeError UInt32 :=
  match cpuNumber? cpu with
  | some n => .ok n
  | none => .error (.invalidCpu channel cpu)

def readRqPelt (r : List UInt8) : Except DecodeError RqPelt :=
  (cpuOrError .rqPelt (int32At r 8)).map fun cpu =>
    { ts := uint64At r 0
      cpu
      peltClass := .ofTag (int32At r 12)
      pelt :=
        { loadAvg := wordOrAbsent (uint64At r 16)
          runnableAvg := wordOrAbsent (uint64At r 24)
          utilAvg := wordOrAbsent (uint64At r 32)
          utilEstEnqueued := wordOrAbsent (uint64At r 40)
          uclampMin := wordOrAbsent (uint64At r 48)
          uclampMax := wordOrAbsent (uint64At r 56) } }

def readTaskPelt (r : List UInt8) : TaskPelt :=
  { ts := uint64At r 0
    pid := int32At r 8
    name := .ofBytes (field r 12 16)
    pelt :=
      { loadAvg := wordOrAbsent (uint64At r 32)
        runnableAvg := wordOrAbsent (uint64At r 40)
        utilAvg := wordOrAbsent (uint64At r 48)
        utilEstEnqueued := wordOrAbsent (uint64At r 56)
        uclampMin := wordOrAbsent (uint64At r 72)
        uclampMax := wordOrAbsent (uint64At r 80) }
    utilEstEwma := wordOrAbsent (uint64At r 64) }

def readNrRunning (r : List UInt8) : Except DecodeError NrRunning :=
  (cpuOrError .nrRunning (int32At r 8)).map fun cpu =>
    { ts := uint64At r 0, cpu, nrRunning := int32At r 12 }

def readSchedSwitch (r : List UInt8) : SchedSwitch :=
  { ts := uint64At r 0
    pid := int32At r 8
    name := .ofBytes (field r 12 16)
    running := byteAt r 28 != 0 }

def readFreqIdle (r : List UInt8) : Except DecodeError FreqIdle :=
  (cpuOrError .freqIdle (int32At r 8)).map fun cpu =>
    { ts := uint64At r 0, cpu, idleState := int32At r 12, idleMiss := int32At r 16 }

def readLevel? (r : List UInt8) (i : Nat) : Option DomainLevel :=
  let name := field r (44 + 8 * i) 8
  -- A slot whose name is empty holds no level.
  if (FixedText.shown name).isEmpty then none
  else some { name := FixedText.text name, balanceInterval := uint64At r (72 + 8 * i) }

def readLoadBalance (r : List UInt8) : LoadBalance :=
  { ts := uint64At r 0
    phase := .ofId (int32At r 8)
    thisCpu := int32At r 12
    lbCpu := int32At r 16
    entry := byteAt r 20 != 0
    overloaded := intOrAbsent (int32At r 24)
    overutilized := intOrAbsent (int32At r 28)
    misfitTaskLoad := wordOrAbsent (uint64At r 32)
    stats := { cpu := int32At r 40, levels := [0, 1, 2].filterMap (readLevel? r) } }

def readIpi (r : List UInt8) : Ipi :=
  { ts := uint64At r 0
    fromCpu := int32At r 8
    targetCpu := int32At r 12
    callsite := uint64At r 16
    callback := uint64At r 24 }

def read (channel : Channel) (r : List UInt8) : Except DecodeError Event :=
  match channel with
  | .rqPelt => (readRqPelt r).map .rqPelt
  | .taskPelt => .ok (.taskPelt (readTaskPelt r))
  | .nrRunning => (readNrRunning r).map .nrRunning
  | .schedSwitch => .ok (.schedSwitch (readSchedSwitch r))
  | .freqIdle => (readFreqIdle r).map .freqIdle
  | .loadBalance => .ok (.loadBalance (readLoadBalance r))
  | .ipi => .ok (.ipi (readIpi r))

def decode (channel : Channel) (r : List UInt8) : Except DecodeError Event :=
  if r.length < channel.recordSize then .error (.tooShort channel r.length) else read channel r

end Event

end SchedTelemetry
