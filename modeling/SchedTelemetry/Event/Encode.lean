import SchedTelemetry.Event.Decode

set_option autoImplicit false

namespace SchedTelemetry

open LittleEndian

-- A writer of records is free in what no field covers and in the byte that stands for true.
structure Filler where
  byteAt : Nat → UInt8
  truth : UInt8
  truth_ne_zero : truth ≠ 0

def Filler.plain : Filler := ⟨fun _ => 0, 1, by decide⟩

def Filler.gap (f : Filler) (offset width : Nat) : List UInt8 :=
  (List.range width).map (fun i => f.byteAt (offset + i))

def Filler.flag (f : Filler) (b : Bool) : List UInt8 :=
  [if b then f.truth else 0]

def wordOrUnread (x : Option UInt64) : List UInt8 :=
  ofUInt64 (x.getD unreadWord)

def intOrUnread (x : Option Int32) : List UInt8 :=
  ofInt32 (x.getD (-1))

/-- A slot for a domain level. An unused one has an empty name, with anything behind its NUL, and any
interval. -/
inductive DomainSlot where
  | used (level : DomainLevel)
  | unused (leftover : List UInt8) (interval : UInt64)
  deriving DecidableEq

namespace DomainSlot

def level? : DomainSlot → Option DomainLevel
  | .used level => some level
  | .unused .. => none

def nameField : DomainSlot → List UInt8
  | .used level => FixedText.fit 8 (Utf8.encode level.name)
  | .unused leftover _ => 0 :: FixedText.fit 7 leftover

def interval : DomainSlot → UInt64
  | .used level => level.balanceInterval
  | .unused _ interval => interval

def Hold (slots : List DomainSlot) (levels : List DomainLevel) : Prop :=
  slots.length = 3 ∧ slots.filterMap level? = levels

end DomainSlot

def PeltClass.Canonical : PeltClass → Prop
  | .unknown tag => tag ∉ ([0, 1, 2, 3, 4] : List Int32)
  | _ => True

def BalancePhase.Canonical : BalancePhase → Prop
  | .unknown id => id ∉ ([0, 1, 2, 3, 4, 5, 6] : List Int32)
  | _ => True

structure PeltSignals.Representable (p : PeltSignals) : Prop where
  loadAvg : p.loadAvg ≠ some unreadWord
  runnableAvg : p.runnableAvg ≠ some unreadWord
  utilAvg : p.utilAvg ≠ some unreadWord
  uclampMin : p.uclampMin ≠ some unreadWord
  uclampMax : p.uclampMax ≠ some unreadWord
  utilEstEnqueued : p.utilEstEnqueued ≠ some unreadWord

structure DomainLevel.Representable (level : DomainLevel) : Prop where
  no_nul : 0 ∉ Utf8.encode level.name
  not_empty : Utf8.encode level.name ≠ []
  fits : (Utf8.encode level.name).length ≤ 8

def RepresentableCpu (cpu : UInt32) : Prop := cpu < 0x80000000

namespace Event

def writeRqPelt (e : RqPelt) : List UInt8 :=
  ofUInt64 e.ts ++ ofUInt32 e.cpu ++ ofInt32 e.peltClass.tag
    ++ wordOrUnread e.pelt.loadAvg ++ wordOrUnread e.pelt.runnableAvg
    ++ wordOrUnread e.pelt.utilAvg ++ wordOrUnread e.pelt.utilEstEnqueued
    ++ wordOrUnread e.pelt.uclampMin ++ wordOrUnread e.pelt.uclampMax

def writeTaskPelt (f : Filler) (e : TaskPelt) : List UInt8 :=
  ofUInt64 e.ts ++ ofInt32 e.pid ++ e.name.bytes ++ f.gap 28 4
    ++ wordOrUnread e.pelt.loadAvg ++ wordOrUnread e.pelt.runnableAvg
    ++ wordOrUnread e.pelt.utilAvg ++ wordOrUnread e.pelt.utilEstEnqueued
    ++ wordOrUnread e.utilEstEwma
    ++ wordOrUnread e.pelt.uclampMin ++ wordOrUnread e.pelt.uclampMax

def writeNrRunning (e : NrRunning) : List UInt8 :=
  ofUInt64 e.ts ++ ofUInt32 e.cpu ++ ofInt32 e.nrRunning

def writeSchedSwitch (f : Filler) (e : SchedSwitch) : List UInt8 :=
  ofUInt64 e.ts ++ ofInt32 e.pid ++ e.name.bytes ++ f.flag e.running ++ f.gap 29 3

def writeFreqIdle (f : Filler) (e : FreqIdle) : List UInt8 :=
  ofUInt64 e.ts ++ ofUInt32 e.cpu ++ ofInt32 e.idleState ++ ofInt32 e.idleMiss ++ f.gap 20 4

def writeLoadBalance (f : Filler) (slots : List DomainSlot) (e : LoadBalance) : List UInt8 :=
  ofUInt64 e.ts ++ ofInt32 e.phase.id ++ ofInt32 e.thisCpu ++ ofInt32 e.lbCpu
    ++ f.flag e.entry ++ f.gap 21 3
    ++ intOrUnread e.overloaded ++ intOrUnread e.overutilized ++ wordOrUnread e.misfitTaskLoad
    ++ ofInt32 e.stats.cpu ++ slots.flatMap (·.nameField) ++ f.gap 68 4
    ++ slots.flatMap (fun s => ofUInt64 s.interval)

def writeIpi (e : Ipi) : List UInt8 :=
  ofUInt64 e.ts ++ ofInt32 e.fromCpu ++ ofInt32 e.targetCpu ++ ofUInt64 e.callsite
    ++ ofUInt64 e.callback

def encode (f : Filler) (slots : List DomainSlot) : Event → List UInt8
  | .rqPelt e => writeRqPelt e
  | .taskPelt e => writeTaskPelt f e
  | .nrRunning e => writeNrRunning e
  | .schedSwitch e => writeSchedSwitch f e
  | .freqIdle e => writeFreqIdle f e
  | .loadBalance e => writeLoadBalance f slots e
  | .ipi e => writeIpi e

def Representable : Event → Prop
  | .rqPelt e => RepresentableCpu e.cpu ∧ e.peltClass.Canonical ∧ e.pelt.Representable
  | .taskPelt e => e.pelt.Representable ∧ e.utilEstEwma ≠ some unreadWord
  | .nrRunning e => RepresentableCpu e.cpu
  | .schedSwitch _ => True
  | .freqIdle e => RepresentableCpu e.cpu
  | .loadBalance e =>
    e.phase.Canonical ∧ e.overloaded ≠ some (-1) ∧ e.overutilized ≠ some (-1) ∧
      e.misfitTaskLoad ≠ some unreadWord ∧ ∀ level ∈ e.stats.levels, level.Representable
  | .ipi _ => True

def domainLevels : Event → List DomainLevel
  | .loadBalance e => e.stats.levels
  | _ => []

end Event

end SchedTelemetry
