import SchedTelemetry.Proofs.PeltCounters
import SchedTelemetry.Proofs.Selection

set_option autoImplicit false

namespace SchedTelemetry

open LittleEndian

structure TaskChannels where
  pelt : Processor
  switches : Processor

inductive TaskInput where
  | pelt (raw : List UInt8)
  | switch (raw : List UInt8)

namespace TaskChannels

def fresh (setup : Setup) : TaskChannels :=
  ⟨.fresh .taskPelt setup, .fresh .schedSwitch setup⟩

def feed (c : TaskChannels) : TaskInput → TaskChannels × List Record
  | .pelt raw => ({ c with pelt := (c.pelt.consume raw).1 }, (c.pelt.consume raw).2.records)
  | .switch raw =>
    ({ c with switches := (c.switches.consume raw).1 }, (c.switches.consume raw).2.records)

def after (c : TaskChannels) (inputs : List TaskInput) : TaskChannels :=
  inputs.foldl (fun c input => (c.feed input).1) c

def trace (c : TaskChannels) : List TaskInput → List Record
  | [] => []
  | input :: rest => (c.feed input).2 ++ (c.feed input).1.trace rest

end TaskChannels

def Record.valueOn? (track : Track) (r : Record) : Option Int64 :=
  match r.observation with
  | .counter other value => if other = track then some value else none
  | _ => none

def lastValue? (track : Track) (trace : List Record) : Option Int64 :=
  trace.reverse.findSome? (Record.valueOn? track)

section last

variable {track : Track} {trace : List Record} {value : Int64}

theorem Record.valueOn?_eq_some {r : Record} :
    r.valueOn? track = some value ↔ r.observation = .counter track value := by
  unfold valueOn?
  split
  next other shown here => by_cases same : other = track <;> simp [here, same]
  next plain => simpa using plain track value

theorem lastValue?_append (track : Track) (xs ys : List Record) :
    lastValue? track (xs ++ ys) = (lastValue? track ys).or (lastValue? track xs) := by
  simp [lastValue?, List.findSome?_append]

theorem mem_of_lastValue? (last : lastValue? track trace = some value) :
    ∃ r ∈ trace, r.observation = .counter track value := by
  obtain ⟨r, member, shown⟩ := List.exists_of_findSome?_eq_some last
  exact ⟨r, List.mem_reverse.mp member, Record.valueOn?_eq_some.mp shown⟩

theorem lastValue?_eq_none_iff :
    lastValue? track trace = none ↔ ∀ r ∈ trace, ∀ v, r.observation ≠ .counter track v := by
  rw [lastValue?, List.findSome?_eq_none_iff]
  simp only [List.mem_reverse, Option.eq_none_iff_forall_ne_some, ne_eq, Record.valueOn?_eq_some]

end last

section counters

variable {σ : Type} {s : Switches} {track : σ → Track} {readings : List (Reading σ)}

theorem mem_counters_iff {o : Observation} :
    o ∈ counters s track readings ↔ ∃ x signal v, (x, signal, some v) ∈ readings ∧
      s.isOn x = true ∧ o = .counter (track signal) v.toInt64 := by
  constructor
  · intro member
    obtain ⟨⟨x, signal, value?⟩, here, given⟩ := List.mem_filterMap.mp member
    dsimp only at given
    split at given
    next on =>
      obtain ⟨v, rfl, rfl⟩ := Option.map_eq_some_iff.mp given
      exact ⟨x, signal, v, here, on, rfl⟩
    next => simp at given
  · rintro ⟨x, signal, v, here, on, rfl⟩
    exact List.mem_filterMap.mpr ⟨_, here, by simp [on]⟩

end counters

theorem SchedSwitch.mem_readings_iff {e : SchedSwitch} {x : Switch} {signal : TaskSignal} {v : UInt64} :
    (x, signal, some v) ∈ e.readings ↔
      e.running = false ∧ signal ≠ .runnableAvg ∧ x = signal.switch ∧ v = 0 := by
  cases running : e.running <;> cases signal <;> simp [readings, running, TaskSignal.switch]

def PeltSignals.zeros : PeltSignals := ⟨some 0, some 0, some 0, some 0, some 0, some 0⟩

theorem PeltSignals.zeros_representable : zeros.Representable := by
  constructor <;> decide

theorem TaskPelt.mem_readings_of_known (ts : UInt64) (pid : Int32) (name : TaskName)
    (signal : TaskSignal) :
    (signal.switch, signal, some 0) ∈ (⟨ts, pid, name, .zeros, some 0⟩ : TaskPelt).readings := by
  have clamp : PeltSignals.zeros.uclampedAvg = some 0 := by decide
  cases signal <;> simp [readings, TaskSignal.switch, clamp] <;> simp [PeltSignals.zeros]

theorem TaskPelt.exists_sample {e : TaskPelt} (known : (Event.taskPelt e).Representable) :
    ∃ sample, 88 ≤ sample.length ∧ Event.readTaskPelt sample = e := by
  refine ⟨Event.writeTaskPelt .plain e, ?_, ?_⟩
  · have width := e.name.length_eq
    simp [Event.writeTaskPelt, width]
  · simpa using Event.readTaskPelt_write [] .plain known

namespace TaskOctets

def pid (raw : List UInt8) : Int32 := int32At raw 8

def name (raw : List UInt8) : String := FixedText.text (field raw 12 16)

def stopped (raw : List UInt8) : Bool := byteAt raw 28 == 0

def zero (raw : List UInt8) (signal : TaskSignal) : Record :=
  ⟨uint64At raw 0, .counter (.task (name raw) (pid raw) signal) 0⟩

end TaskOctets

open TaskOctets

section emissions

variable {setup : Setup} {raw : List UInt8}

theorem belongs_of_mem_recordsOf {c : Channel} {r : Record}
    (member : r ∈ Processor.recordsOf c setup raw) :
    r.belongs setup.switches setup.filter = true := by
  rw [Processor.recordsOf_eq_filter c setup.switches setup.filter setup.symbols] at member
  exact (List.mem_filter.mp member).2

theorem mem_switch_records_iff (long : 32 ≤ raw.length) {r : Record} :
    r ∈ Processor.recordsOf .schedSwitch setup raw ↔
      stopped raw = true ∧ setup.filter.accepts (pid raw) (name raw) = true ∧
        ∃ signal, signal ≠ .runnableAvg ∧ setup.switches.isOn signal.switch = true ∧
          r = zero raw signal := by
  have decoded : Event.decode .schedSwitch raw = .ok (.schedSwitch (Event.readSchedSwitch raw)) :=
    if_neg (Nat.not_lt.mpr long)
  have text : (Event.readSchedSwitch raw).name.text = name raw := text_nameAt (by omega)
  have same_pid : (Event.readSchedSwitch raw).pid = pid raw := rfl
  have running : (Event.readSchedSwitch raw).running = false ↔ stopped raw = true := by
    simp [Event.readSchedSwitch, stopped]
  simp only [Processor.recordsOf, decoded, Event.records, Event.observations, List.mem_map,
    SchedSwitch.observations, text, same_pid]
  by_cases accepted : setup.filter.accepts (pid raw) (name raw) = true
  · simp only [accepted, if_true, mem_counters_iff, SchedSwitch.mem_readings_iff, running, true_and]
    constructor
    · rintro ⟨o, ⟨x, signal, v, ⟨stops, other, rfl, rfl⟩, on, rfl⟩, rfl⟩
      exact ⟨stops, signal, other, on, rfl⟩
    · rintro ⟨stops, signal, other, on, rfl⟩
      exact ⟨_, ⟨_, signal, 0, ⟨stops, other, rfl, rfl⟩, on, rfl⟩, rfl⟩
  · simp [accepted]

-- Some sample of the task can make a signal of it appear.
def SampleShows (emitted : List UInt8 → List Record) (task : List UInt8) (signal : TaskSignal) : Prop :=
  ∃ sample, 88 ≤ sample.length ∧ pid sample = pid task ∧ name sample = name task ∧
    ∃ r ∈ emitted sample, ∃ v, r.observation = .counter (.task (name task) (pid task) signal) v

theorem sampleShows_iff (long : 28 ≤ raw.length)
    (accepted : setup.filter.accepts (pid raw) (name raw) = true) (signal : TaskSignal) :
    SampleShows (Processor.recordsOf .taskPelt setup) raw signal ↔
      setup.switches.isOn signal.switch = true := by
  constructor
  · rintro ⟨sample, -, -, -, r, member, v, shown⟩
    have belongs := belongs_of_mem_recordsOf member
    simp only [Record.belongs, shown, Bool.and_eq_true] at belongs
    exact belongs.1
  · intro on
    let task := TaskName.ofBytes (field raw 12 16)
    let e : TaskPelt := ⟨0, pid raw, task, .zeros, some 0⟩
    have text : task.text = name raw := text_nameAt long
    obtain ⟨sample, size, read⟩ :=
      TaskPelt.exists_sample (e := e) ⟨PeltSignals.zeros_representable, by simp [e, unreadWord]⟩
    have same_pid : pid sample = pid raw := congrArg TaskPelt.pid read
    have same_name : name sample = name raw := by
      rw [name, ← text_nameAt (by omega), ← text]
      exact congrArg (fun e => e.name.text) read
    have decoded : Event.decode .taskPelt sample = .ok (.taskPelt e) := by
      rw [← read]
      exact if_neg (Nat.not_lt.mpr size)
    have observed : .counter (.task (name raw) (pid raw) signal) 0 ∈ e.observations setup := by
      simp only [TaskPelt.observations, e, text, accepted, if_true, mem_counters_iff]
      exact ⟨_, signal, 0, TaskPelt.mem_readings_of_known 0 _ task signal, on, rfl⟩
    refine ⟨sample, size, same_pid, same_name, ⟨0, _⟩, ?_, 0, rfl⟩
    simp only [Processor.recordsOf, decoded]
    exact List.mem_map_of_mem observed

end emissions

namespace TaskChannels

structure Serves (c : TaskChannels) (setup : Setup) : Prop where
  pelt_channel : c.pelt.channel = .taskPelt
  pelt_setup : c.pelt.setup = setup
  switches_channel : c.switches.channel = .schedSwitch
  switches_setup : c.switches.setup = setup

def emits (setup : Setup) : TaskInput → List Record
  | .pelt raw => Processor.recordsOf .taskPelt setup raw
  | .switch raw => Processor.recordsOf .schedSwitch setup raw

section serves

variable {c : TaskChannels} {setup : Setup}

theorem fresh_serves (setup : Setup) : (fresh setup).Serves setup :=
  ⟨rfl, rfl, rfl, rfl⟩

theorem Serves.feed (serves : c.Serves setup) (input : TaskInput) : (c.feed input).1.Serves setup := by
  obtain ⟨pelt_channel, pelt_setup, switches_channel, switches_setup⟩ := serves
  cases input <;> constructor <;> simpa [TaskChannels.feed]

theorem Serves.feed_records (serves : c.Serves setup) (input : TaskInput) :
    (c.feed input).2 = emits setup input := by
  cases input <;>
    simp [TaskChannels.feed, emits, Processor.consume_records, serves.pelt_channel, serves.pelt_setup,
      serves.switches_channel, serves.switches_setup]

theorem Serves.after (serves : c.Serves setup) (inputs : List TaskInput) :
    (c.after inputs).Serves setup := by
  induction inputs generalizing c with
  | nil => exact serves
  | cons input rest ih => exact ih (serves.feed input)

theorem Serves.trace_eq (serves : c.Serves setup) (inputs : List TaskInput) :
    c.trace inputs = inputs.flatMap (emits setup) := by
  induction inputs generalizing c with
  | nil => rfl
  | cons input rest ih => rw [trace, ih (serves.feed input), serves.feed_records, List.flatMap_cons]

theorem Serves.let_through (serves : c.Serves setup) {inputs : List TaskInput} {r : Record}
    (member : r ∈ c.trace inputs) {name : String} {pid : Int32} {signal : TaskSignal} {v : Int64}
    (shown : r.observation = .counter (.task name pid signal) v) :
    setup.filter.accepts pid name = true ∧ setup.switches.isOn signal.switch = true := by
  rw [serves.trace_eq] at member
  obtain ⟨input, -, emitted⟩ := List.mem_flatMap.mp member
  have belongs : r.belongs setup.switches setup.filter = true := by
    cases input <;> exact belongs_of_mem_recordsOf emitted
  simp only [Record.belongs, shown, Bool.and_eq_true] at belongs
  exact ⟨belongs.2, belongs.1⟩

end serves

section switch

variable {setup : Setup} {raw : List UInt8} {before : List Record}

theorem switch_zeros (long : 32 ≤ raw.length) :
    ∀ r ∈ emits setup (.switch raw), ∃ signal, signal ≠ .runnableAvg ∧ r = zero raw signal := by
  intro r member
  obtain ⟨-, -, signal, other, -, shown⟩ := (mem_switch_records_iff long).mp member
  exact ⟨signal, other, shown⟩

theorem switch_silent (long : 32 ≤ raw.length) (running : stopped raw = false) :
    emits setup (.switch raw) = [] := by
  rw [List.eq_nil_iff_forall_not_mem]
  intro r member
  obtain ⟨stops, -⟩ := (mem_switch_records_iff long).mp member
  simp [running] at stops

theorem switch_keeps_others (long : 32 ≤ raw.length) {track : Track}
    (other : ∀ signal, track ≠ .task (name raw) (pid raw) signal) :
    lastValue? track (before ++ emits setup (.switch raw)) = lastValue? track before := by
  have silent : lastValue? track (emits setup (.switch raw)) = none := by
    rw [lastValue?_eq_none_iff]
    intro r member v shown
    obtain ⟨signal, -, rfl⟩ := switch_zeros long r member
    cases shown
    exact other signal rfl
  rw [lastValue?_append, silent, Option.none_or]

theorem switch_leaves_zero (long : 32 ≤ raw.length) (stops : stopped raw = true)
    {c : TaskChannels} (serves : c.Serves setup) {history : List TaskInput} {signal : TaskSignal}
    (other : signal ≠ .runnableAvg) {v : Int64}
    (last : lastValue? (.task (name raw) (pid raw) signal)
      (c.trace history ++ emits setup (.switch raw)) = some v) : v = 0 := by
  rw [lastValue?_append] at last
  cases now : lastValue? (.task (name raw) (pid raw) signal) (emits setup (.switch raw)) with
  | some w =>
    obtain rfl : w = v := by simpa [now] using last
    obtain ⟨r, member, shown⟩ := mem_of_lastValue? now
    obtain ⟨signal', -, rfl⟩ := switch_zeros long r member
    cases shown
    rfl
  | none =>
    rw [now, Option.none_or] at last
    obtain ⟨r, member, shown⟩ := mem_of_lastValue? last
    obtain ⟨accepted, on⟩ := serves.let_through member shown
    have zeroed : zero raw signal ∈ emits setup (.switch raw) :=
      (mem_switch_records_iff long).mpr ⟨stops, accepted, signal, other, on, rfl⟩
    exact absurd rfl (lastValue?_eq_none_iff.mp now _ zeroed 0)

theorem switch_zero_iff (long : 32 ≤ raw.length) (stops : stopped raw = true)
    (accepted : setup.filter.accepts (pid raw) (name raw) = true) (signal : TaskSignal) :
    zero raw signal ∈ emits setup (.switch raw) ↔
      signal ≠ .runnableAvg ∧ SampleShows (fun sample => emits setup (.pelt sample)) raw signal := by
  have shows : SampleShows (fun sample => emits setup (.pelt sample)) raw signal ↔ _ :=
    sampleShows_iff (by omega) accepted signal
  rw [shows, emits, mem_switch_records_iff long]
  constructor
  · rintro ⟨-, -, signal', other, on, same⟩
    obtain rfl : signal = signal' := by simpa [zero] using same
    exact ⟨other, on⟩
  · rintro ⟨other, on⟩
    exact ⟨stops, accepted, signal, other, on, rfl⟩

end switch

/-- A record of a task switch, after any records of both channels: it writes zeros on tracks of its task
only, and none while the task runs. Once the task has stopped, no track of it is left at another value,
and the tracks written are those that a sample of the task can make appear, less the runnable average. -/
theorem stopped_tasks_fall_to_zero (setup : Setup) (history : List TaskInput) (raw : List UInt8)
    (long : 32 ≤ raw.length) :
    let before := (fresh setup).trace history
    let now := (fresh setup).after history
    let said := (now.feed (.switch raw)).2
    let after := (fresh setup).trace (history ++ [.switch raw])
    after = before ++ said ∧
    (∀ r ∈ said, ∃ signal, signal ≠ .runnableAvg ∧ r = zero raw signal) ∧
    (stopped raw = false → said = []) ∧
    (∀ track, (∀ signal, track ≠ .task (name raw) (pid raw) signal) →
      lastValue? track after = lastValue? track before) ∧
    (stopped raw = true →
      (∀ signal, signal ≠ .runnableAvg →
        ∀ v, lastValue? (.task (name raw) (pid raw) signal) after = some v → v = 0) ∧
      (setup.filter.accepts (pid raw) (name raw) = true → ∀ signal,
        zero raw signal ∈ said ↔
          signal ≠ .runnableAvg ∧ SampleShows (fun sample => (now.feed (.pelt sample)).2) raw signal)) := by
  intro before now said after
  have serves := fresh_serves setup
  have emitted : ∀ input, (now.feed input).2 = emits setup input :=
    (serves.after history).feed_records
  have said_eq : said = emits setup (.switch raw) := emitted _
  have appended : after = before ++ said := by
    simp only [after, before, said_eq, serves.trace_eq, List.flatMap_append, List.flatMap_singleton]
  refine ⟨appended, ?_, ?_, ?_, ?_⟩
  · rw [said_eq]
    exact switch_zeros long
  · rw [said_eq]
    exact switch_silent long
  · intro track other
    rw [appended, said_eq]
    exact switch_keeps_others long other
  · intro stops
    constructor
    · intro signal other v last
      rw [appended, said_eq] at last
      exact switch_leaves_zero long stops serves other last
    · intro accepted signal
      simp only [said_eq, emitted]
      exact switch_zero_iff long stops accepted signal

theorem stopped_namesake_falls_to_zero :
    let setup : Setup := ⟨.ofList [.runnableAvgTask, .utilAvgTask], ⟨[4], ["sh"]⟩, .empty⟩
    let sample (pid : Int32) := Event.writeTaskPelt .plain
      ⟨1, pid, .ofString "bash", ⟨none, some 7, some 8, none, none, none⟩, none⟩
    let switch (running : Bool) := Event.writeSchedSwitch .plain ⟨2, 5, .ofString "bash", running⟩
    let history := [.pelt (sample 5), .switch (switch true), .pelt (sample 6)]
    let after := (fresh setup).trace (history ++ [.switch (switch false)])
    32 ≤ (switch false).length ∧
      (∀ v, lastValue? (.task "bash" 5 .utilAvg) after = some v → v = 0) ∧
      lastValue? (.task "bash" 5 .utilAvg) after = some 0 ∧
      lastValue? (.task "bash" 5 .runnableAvg) after = some 7 ∧
      lastValue? (.task "bash" 6 .utilAvg) after = some 8 ∧
      zero (switch false) .uclampedAvg ∈
        (((fresh setup).after history).feed (.switch (switch false))).2 := by
  intro setup sample switch history after
  have long : 32 ≤ (switch false).length := by decide +kernel
  obtain ⟨-, -, -, others, stops⟩ := stopped_tasks_fall_to_zero setup history (switch false) long
  have stopped_now : stopped (switch false) = true := by decide +kernel
  have task : name (switch false) = "bash" ∧ pid (switch false) = 5 := by decide +kernel
  have left := (stops stopped_now).1 .utilAvg (by decide)
  have kept := others (.task "bash" 6 .utilAvg) (by simp [task])
  rw [task.1, task.2] at left
  exact ⟨long, left, by decide +kernel, by decide +kernel, kept.trans (by decide +kernel),
    by decide +kernel⟩

end TaskChannels

end SchedTelemetry
