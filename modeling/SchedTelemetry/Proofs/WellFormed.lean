import SchedTelemetry.Proofs.RecordLayout
import SchedTelemetry.Proofs.Requests
import SchedTelemetry.Proofs.Utf8Spelling

set_option autoImplicit false

namespace SchedTelemetry

def WithinInt32 (v : Int64) : Prop := -0x80000000 ≤ v.toInt ∧ v.toInt < 0x80000000

def FitsField (width : Nat) (text : String) : Prop :=
  text.length ≤ width ∧ '\x00' ∉ text.toList

def CpuSignal.Allows : CpuSignal → Int64 → Prop
  | .nrRunning, v | .idle, v => WithinInt32 v
  | .idleMiss, v => WithinInt32 v ∧ v ≠ 0
  | .loadAvg, v | .runnableAvg, v | .utilAvg, v | .uclampedAvg, v | .utilAvgRt, v | .utilAvgDl, v
  | .utilAvgIrq, v | .loadAvgThermal, v | .utilEstEnqueued, v | .misfit, v => v ≠ -1

def Track.Allows : Track → Int64 → Prop
  | .cpu c signal, v => c.toNat < 0x80000000 ∧ signal.Allows v
  | .task name _ _, v => FitsField 16 name ∧ v ≠ -1
  | .overloaded, v | .overutilized, v => WithinInt32 v ∧ v ≠ -1

def DomainLevel.WellFormed (level : DomainLevel) : Prop :=
  level.name ≠ "" ∧ FitsField 8 level.name

def Observation.WellFormed : Observation → Prop
  | .counter track v => track.Allows v
  | .domains stats => stats.levels.length ≤ 3 ∧ ∀ level ∈ stats.levels, level.WellFormed
  | .balanceEntry .. | .balanceExit .. | .ipi .. => True

theorem TaskName.text_fits (name : TaskName) : FitsField 16 name.text := by
  have short := FixedText.length_text_le name.bytes
  rw [name.length_eq] at short
  exact ⟨short, FixedText.nul_not_mem_text name.bytes⟩

section values

theorem withinInt32 (x : Int32) : WithinInt32 x.toInt64 := by
  have low := x.le_toInt
  have high := x.toInt_lt
  simp only [WithinInt32, Int32.toInt_toInt64]
  omega

theorem toInt64_ne_of_known {v : UInt64} (known : v ≠ unreadWord) : v.toInt64 ≠ -1 := by
  intro same
  have bits := congrArg Int64.toUInt64 same
  rw [UInt64.toUInt64_toInt64] at bits
  exact known bits

theorem widened_ne {x y : Int32} (other : x ≠ y) : x.toInt64 ≠ y.toInt64 := by
  intro same
  have values := congrArg Int64.toInt same
  rw [Int32.toInt_toInt64, Int32.toInt_toInt64] at values
  exact other (Int32.toInt_inj.mp values)

theorem wordOrAbsent_known (x : UInt64) : wordOrAbsent x ≠ some unreadWord := by
  unfold wordOrAbsent
  split <;> simp [*]

theorem intOrAbsent_known {x v : Int32} (some_value : intOrAbsent x = some v) : v ≠ -1 := by
  unfold intOrAbsent at some_value
  split at some_value <;> simp_all

theorem cpuNumber?_representable {cpu : Int32} {n : UInt32} (number : cpuNumber? cpu = some n) :
    n.toNat < 0x80000000 := by
  unfold cpuNumber? at number
  split at number
  · simp at number
  next natural =>
    obtain rfl := Option.some.inj number
    have value : cpu.toInt = cpu.toBitVec.toInt := rfl
    have zero : (0 : Int32).toInt = 0 := rfl
    have size : cpu.toUInt32.toNat < 2 ^ 32 := cpu.toUInt32.toNat_lt
    have bits : cpu.toBitVec.toNat = cpu.toUInt32.toNat := rfl
    rw [Int32.lt_iff_toInt_lt, value, zero, BitVec.toInt_eq_toNat_cond, bits] at natural
    split at natural <;> omega

theorem max_either (a b : UInt64) : max a b = a ∨ max a b = b := by
  change (if a ≤ b then b else a) = a ∨ (if a ≤ b then b else a) = b
  split <;> simp

theorem min_either (a b : UInt64) : min a b = a ∨ min a b = b := by
  change (if a ≤ b then a else b) = a ∨ (if a ≤ b then a else b) = b
  split <;> simp

theorem PeltSignals.Representable.uclampedAvg_known {p : PeltSignals} (known : p.Representable) :
    p.uclampedAvg ≠ some unreadWord := by
  unfold PeltSignals.uclampedAvg
  split
  -- Clamps may cross, so no order of the three is known.
  next util low high utils lows highs =>
    have a := known.utilAvg
    have b := known.uclampMin
    have c := known.uclampMax
    rw [utils] at a
    rw [lows] at b
    rw [highs] at c
    rcases max_either (min util high) low with first | second
    · rcases min_either util high with inner | outer
      · rwa [first, inner]
      · rwa [first, outer]
    · rwa [second]
  next => simp

end values

section counters

variable {σ : Type} {track : σ → Track} {readings : List (Reading σ)}

def Readable (track : σ → Track) (readings : List (Reading σ)) : Prop :=
  ∀ x ∈ readings, x.2.2 ≠ some unreadWord ∧ ∀ v, v ≠ -1 → (track x.2.1).Allows v

theorem Readable.counters_wellFormed (readable : Readable track readings) (s : Switches) :
    ∀ o ∈ counters s track readings, o.WellFormed := by
  intro o member
  obtain ⟨⟨switch, signal, value?⟩, here, given⟩ := List.mem_filterMap.mp member
  obtain ⟨known, allows⟩ := readable _ here
  dsimp only at given
  split at given
  · obtain ⟨v, rfl, rfl⟩ := Option.map_eq_some_iff.mp given
    exact allows _ (toInt64_ne_of_known (fun same => known (congrArg some same)))
  · simp at given

theorem RqPelt.readable {e : RqPelt} (known : e.pelt.Representable) (cpu : e.cpu.toNat < 0x80000000) :
    Readable (.cpu e.cpu) e.readings := by
  intro x member
  unfold readings at member
  cases class_eq : e.peltClass <;>
    simp only [class_eq, List.mem_cons, List.not_mem_nil, or_false] at member
  case fair =>
    rcases member with rfl | rfl | rfl | rfl | rfl
    · exact ⟨known.loadAvg, fun _ other => ⟨cpu, other⟩⟩
    · exact ⟨known.runnableAvg, fun _ other => ⟨cpu, other⟩⟩
    · exact ⟨known.utilAvg, fun _ other => ⟨cpu, other⟩⟩
    · exact ⟨known.uclampedAvg_known, fun _ other => ⟨cpu, other⟩⟩
    · exact ⟨known.utilEstEnqueued, fun _ other => ⟨cpu, other⟩⟩
  case rt | dl | irq =>
    subst member
    exact ⟨known.utilAvg, fun _ other => ⟨cpu, other⟩⟩
  case thermal =>
    subst member
    exact ⟨known.loadAvg, fun _ other => ⟨cpu, other⟩⟩

theorem TaskPelt.readable {e : TaskPelt} (known : e.pelt.Representable)
    (ewma : e.utilEstEwma ≠ some unreadWord) : Readable (.task e.name.text e.pid) e.readings := by
  have name : FitsField 16 e.name.text := e.name.text_fits
  intro x member
  simp only [readings, List.mem_cons, List.not_mem_nil, or_false] at member
  rcases member with rfl | rfl | rfl | rfl | rfl | rfl
  · exact ⟨known.loadAvg, fun _ other => ⟨name, other⟩⟩
  · exact ⟨known.runnableAvg, fun _ other => ⟨name, other⟩⟩
  · exact ⟨known.utilAvg, fun _ other => ⟨name, other⟩⟩
  · exact ⟨known.uclampedAvg_known, fun _ other => ⟨name, other⟩⟩
  · exact ⟨known.utilEstEnqueued, fun _ other => ⟨name, other⟩⟩
  · refine ⟨?_, fun _ other => ⟨name, other⟩⟩
    cases e.pelt.utilEstEnqueued with
    | none => simp
    | some enqueued => exact ewma

theorem SchedSwitch.readable (e : SchedSwitch) :
    Readable (.task e.name.text e.pid) e.readings := by
  intro x member
  have reset : x.2.2 = some 0 := by
    unfold readings at member
    split at member
    · simp at member
    · simp only [List.mem_cons, List.not_mem_nil, or_false] at member
      rcases member with rfl | rfl | rfl | rfl | rfl <;> rfl
  rw [reset]
  exact ⟨by decide, fun _ other => ⟨e.name.text_fits, other⟩⟩

end counters

namespace Event

theorem readLevel?_wellFormed {r : List UInt8} {i : Nat} {level : DomainLevel}
    (used : readLevel? r i = some level) : level.WellFormed := by
  simp only [readLevel?] at used
  split at used
  · simp at used
  next shown =>
    obtain rfl := Option.some.inj used
    have width : (LittleEndian.field r (44 + 8 * i) 8).length ≤ 8 := List.length_take_le ..
    refine ⟨?_, Nat.le_trans (FixedText.length_text_le _) width, FixedText.nul_not_mem_text _⟩
    exact Utf8.decodeLossy_ne_empty (by simpa using shown)

theorem readRqPelt_observations {r : List UInt8} {e : RqPelt} (ok : readRqPelt r = .ok e)
    (setup : Setup) : ∀ o ∈ e.observations setup, o.WellFormed := by
  obtain ⟨cpu, number, rfl⟩ := cpuOrError_map_eq_ok_iff.mp ok
  refine (RqPelt.readable ?_ (cpuNumber?_representable number)).counters_wellFormed _
  constructor <;> exact wordOrAbsent_known _

theorem readTaskPelt_observations (r : List UInt8) (setup : Setup) :
    ∀ o ∈ (readTaskPelt r).observations setup, o.WellFormed := by
  unfold TaskPelt.observations
  split
  · refine (TaskPelt.readable ?_ (wordOrAbsent_known _)).counters_wellFormed _
    constructor <;> exact wordOrAbsent_known _
  · simp

theorem schedSwitch_observations (e : SchedSwitch) (setup : Setup) :
    ∀ o ∈ e.observations setup, o.WellFormed := by
  unfold SchedSwitch.observations
  split
  · exact e.readable.counters_wellFormed _
  · simp

theorem readNrRunning_observations {r : List UInt8} {e : NrRunning} (ok : readNrRunning r = .ok e)
    (setup : Setup) : ∀ o ∈ e.observations setup, o.WellFormed := by
  obtain ⟨cpu, number, rfl⟩ := cpuOrError_map_eq_ok_iff.mp ok
  unfold NrRunning.observations
  split
  · simpa [Observation.WellFormed] using ⟨cpuNumber?_representable number, withinInt32 _⟩
  · simp

theorem readFreqIdle_observations {r : List UInt8} {e : FreqIdle} (ok : readFreqIdle r = .ok e)
    (setup : Setup) : ∀ o ∈ e.observations setup, o.WellFormed := by
  obtain ⟨cpu, number, rfl⟩ := cpuOrError_map_eq_ok_iff.mp ok
  have small := cpuNumber?_representable number
  unfold FreqIdle.observations
  split
  · intro o member
    rcases List.mem_cons.mp member with rfl | miss
    · exact ⟨small, withinInt32 _⟩
    · split at miss
      · simp at miss
      next direction =>
        obtain rfl := List.mem_singleton.mp miss
        exact ⟨small, withinInt32 _, widened_ne direction⟩
  · simp

theorem readLoadBalance_observations (r : List UInt8) (setup : Setup) :
    ∀ o ∈ (readLoadBalance r).observations setup, o.WellFormed := by
  intro o member
  unfold LoadBalance.observations at member
  split at member
  · simp only [List.mem_append, List.mem_singleton] at member
    rcases member with (((stats | overloaded) | overutilized) | misfit) | rfl
    · unfold LoadBalance.statsPart at stats
      split at stats
      · obtain rfl := List.mem_singleton.mp stats
        refine ⟨List.length_filterMap_le .., ?_⟩
        intro level used
        obtain ⟨i, -, used⟩ := List.mem_filterMap.mp used
        exact readLevel?_wellFormed used
      · simp at stats
    · obtain ⟨v, known, rfl⟩ := by simpa [LoadBalance.overloadedPart] using overloaded
      exact ⟨withinInt32 v, widened_ne (intOrAbsent_known known)⟩
    · obtain ⟨v, known, rfl⟩ := by simpa [LoadBalance.overutilizedPart] using overutilized
      exact ⟨withinInt32 v, widened_ne (intOrAbsent_known known)⟩
    · unfold LoadBalance.misfitPart at misfit
      split at misfit
      next load cpu known number =>
        obtain rfl := List.mem_singleton.mp misfit
        have other : load ≠ unreadWord := by
          intro same
          exact wordOrAbsent_known _ (known.trans (congrArg some same))
        exact ⟨cpuNumber?_representable number, toInt64_ne_of_known other⟩
      next => simp at misfit
    · unfold LoadBalance.marker
      split <;> trivial
  · simp at member

theorem decode_observations {c : Channel} {r : List UInt8} {e : Event} (ok : decode c r = .ok e)
    (setup : Setup) : ∀ o ∈ e.observations setup, o.WellFormed := by
  obtain ⟨-, ok⟩ := decode_eq_ok ok
  cases c with
  | rqPelt =>
    obtain ⟨e, done, rfl⟩ := map_eq_ok_iff.mp ok
    exact readRqPelt_observations done setup
  | taskPelt =>
    cases ok
    exact readTaskPelt_observations r setup
  | nrRunning =>
    obtain ⟨e, done, rfl⟩ := map_eq_ok_iff.mp ok
    exact readNrRunning_observations done setup
  | schedSwitch =>
    cases ok
    exact schedSwitch_observations _ setup
  | freqIdle =>
    obtain ⟨e, done, rfl⟩ := map_eq_ok_iff.mp ok
    exact readFreqIdle_observations done setup
  | loadBalance =>
    cases ok
    exact readLoadBalance_observations r setup
  | ipi =>
    cases ok
    intro o member
    simp only [observations, Ipi.observations] at member
    split at member
    · obtain rfl := List.mem_singleton.mp member
      trivial
    · simp at member

theorem decode_ts {c : Channel} {r : List UInt8} {e : Event} (ok : decode c r = .ok e) :
    8 ≤ r.length ∧ e.ts.toNat = LittleEndian.decode (r.take 8) := by
  obtain ⟨long, ok⟩ := decode_eq_ok ok
  have room : 8 ≤ r.length := by
    have size : 8 ≤ c.recordSize := by cases c <;> decide
    omega
  have first : e.ts = LittleEndian.uint64At r 0 := by
    cases c with
    | rqPelt | nrRunning | freqIdle =>
      obtain ⟨e, done, rfl⟩ := map_eq_ok_iff.mp ok
      obtain ⟨cpu, -, rfl⟩ := cpuOrError_map_eq_ok_iff.mp done
      rfl
    | taskPelt | schedSwitch | loadBalance | ipi =>
      cases ok
      rfl
  have bound := LittleEndian.decode_lt_span (r.take 8)
  have width : (r.take 8).length = 8 := List.length_take_of_le room
  rw [width] at bound
  rw [first]
  exact ⟨room, UInt64.toNat_ofNat_of_lt' bound⟩

end Event

/-- After any requests, the records that a processor emits come from the raw record in hand, bear its time
and are well formed. -/
theorem Processor.emits_wellFormed (c : Channel) (setup : Setup) (before : List Request)
    (request : Request) :
    ∀ r ∈ (((fresh c setup).after before).serve request).2.output.records,
      ∃ raw, request = .consume raw ∧ 8 ≤ raw.length ∧
        r.ts.toNat = LittleEndian.decode (raw.take 8) ∧ r.observation.WellFormed := by
  intro r member
  obtain ⟨channel, same_setup⟩ := (fresh c setup).after_fixed before
  rw [serve_records, channel, same_setup] at member
  cases request with
  | finish => exact absurd member List.not_mem_nil
  | consume raw =>
    simp only [Request.emits, recordsOf] at member
    split at member
    next e ok =>
      obtain ⟨o, observed, rfl⟩ := List.mem_map.mp member
      obtain ⟨room, time⟩ := Event.decode_ts ok
      exact ⟨raw, rfl, room, time, Event.decode_observations ok _ o observed⟩
    next => exact absurd member List.not_mem_nil

theorem crossed_clamps_wellFormed :
    let raw := Event.writeRqPelt ⟨258, 1, .fair, ⟨none, none, some 5, some 9, some 3, none⟩⟩
    let reply := (((Processor.fresh .rqPelt ⟨.every, .empty, .empty⟩).after [.finish]).serve
      (.consume raw)).2
    let r : Record := ⟨258, .counter (.cpu 1 .uclampedAvg) 9⟩
    r ∈ reply.output.records ∧
      ∃ raw', Processor.Request.consume raw = .consume raw' ∧ 8 ≤ raw'.length ∧
        r.ts.toNat = LittleEndian.decode (raw'.take 8) ∧ r.observation.WellFormed := by
  intro raw reply r
  have member : r ∈ reply.output.records := by decide +kernel
  exact ⟨member, Processor.emits_wellFormed .rqPelt ⟨.every, .empty, .empty⟩ [.finish] (.consume raw) r
    member⟩

end SchedTelemetry
