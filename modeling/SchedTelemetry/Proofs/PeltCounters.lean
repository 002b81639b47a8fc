import SchedTelemetry.Proofs.RecordLayout
import SchedTelemetry.Proofs.Requests

set_option autoImplicit false

namespace SchedTelemetry

open LittleEndian

def unreadOctets : List UInt8 := List.replicate 8 0xFF

def present (raw : List UInt8) (offset : Nat) : Bool :=
  field raw offset 8 != unreadOctets

-- A counter with the offsets of the fields it needs.
structure CounterRow (σ : Type) where
  switch : Switch
  signal : σ
  needs : List Nat
  value : UInt64

def clamped (raw : List UInt8) (util low high : Nat) : UInt64 :=
  max (min (uint64At raw util) (uint64At raw high)) (uint64At raw low)

def rqPeltRows (raw : List UInt8) (kind : Int32) : List (CounterRow CpuSignal) :=
  if kind = 0 then
    [⟨.loadAvgCpu, .loadAvg, [16], uint64At raw 16⟩,
      ⟨.runnableAvgCpu, .runnableAvg, [24], uint64At raw 24⟩,
      ⟨.utilAvgCpu, .utilAvg, [32], uint64At raw 32⟩,
      ⟨.utilAvgCpu, .uclampedAvg, [32, 48, 56], clamped raw 32 48 56⟩,
      ⟨.utilEstCpu, .utilEstEnqueued, [40], uint64At raw 40⟩]
  else if kind = 1 then [⟨.utilAvgRt, .utilAvgRt, [32], uint64At raw 32⟩]
  else if kind = 2 then [⟨.utilAvgDl, .utilAvgDl, [32], uint64At raw 32⟩]
  else if kind = 3 then [⟨.utilAvgIrq, .utilAvgIrq, [32], uint64At raw 32⟩]
  else if kind = 4 then [⟨.loadAvgThermal, .loadAvgThermal, [16], uint64At raw 16⟩]
  else []

def taskPeltRows (raw : List UInt8) : List (CounterRow TaskSignal) :=
  [⟨.loadAvgTask, .loadAvg, [32], uint64At raw 32⟩,
    ⟨.runnableAvgTask, .runnableAvg, [40], uint64At raw 40⟩,
    ⟨.utilAvgTask, .utilAvg, [48], uint64At raw 48⟩,
    ⟨.utilAvgTask, .uclampedAvg, [48, 72, 80], clamped raw 48 72 80⟩,
    ⟨.utilEstTask, .utilEstEnqueued, [56], uint64At raw 56⟩,
    ⟨.utilEstTask, .utilEstEwma, [56, 64], uint64At raw 64⟩]

def rowRecords {σ : Type} (raw : List UInt8) (s : Switches) (track : σ → Track)
    (rows : List (CounterRow σ)) : List Record :=
  (rows.filter (fun row => s.isOn row.switch && row.needs.all (present raw))).map
    (fun row => ⟨uint64At raw 0, .counter (track row.signal) row.value.toInt64⟩)

namespace LittleEndian

theorem uint64At_eq_iff {r : List UInt8} {offset : Nat} (room : offset + 8 ≤ r.length) (x : UInt64) :
    uint64At r offset = x ↔ field r offset 8 = ofUInt64 x := by
  have width : (field r offset 8).length = 8 := by
    simp [field]
    omega
  have within := decode_lt_span (field r offset 8)
  have octets := encode_decode (field r offset 8)
  rw [width] at within octets
  constructor
  · rintro rfl
    have number : (uint64At r offset).toNat = decode (field r offset 8) :=
      UInt64.toNat_ofNat_of_lt' within
    simp [ofUInt64, number, octets]
  · intro same
    have first := uint64At_ofUInt64 x []
    simpa only [uint64At, field_first (length_ofUInt64 x), same] using first

end LittleEndian

section rows

variable {raw : List UInt8}

theorem wordOrAbsent_uint64At {offset : Nat} (room : offset + 8 ≤ raw.length) :
    wordOrAbsent (uint64At raw offset) =
      if present raw offset then some (uint64At raw offset) else none := by
  have ones : ofUInt64 unreadWord = unreadOctets := by decide
  by_cases unread : uint64At raw offset = unreadWord
  · have octets := (uint64At_eq_iff room unreadWord).mp unread
    simp [wordOrAbsent, unread, present, octets, ones]
  · have octets := mt (uint64At_eq_iff room unreadWord).mpr unread
    rw [ones] at octets
    simp [wordOrAbsent, unread, present, octets]

def CounterRow.reading {σ : Type} (raw : List UInt8) (row : CounterRow σ) : Reading σ :=
  (row.switch, row.signal, if row.needs.all (present raw) then some row.value else none)

theorem counters_readings {σ : Type} (s : Switches) (track : σ → Track) (rows : List (CounterRow σ)) :
    (counters s track (rows.map (CounterRow.reading raw))).map
        (fun o => (⟨uint64At raw 0, o⟩ : Record)) =
      rowRecords raw s track rows := by
  induction rows with
  | nil => rfl
  | cons row rest ih =>
    simp only [counters, rowRecords] at ih
    -- A row goes into both lists or into neither.
    by_cases on : s.isOn row.switch = true <;> by_cases read : row.needs.all (present raw) = true <;>
      simp [-List.filterMap_map, counters, rowRecords, CounterRow.reading, on, read, ih]

section reading

variable {σ : Type} (x : Switch) (signal : σ) {offset : Nat}

theorem reading_field (room : offset + 8 ≤ raw.length) :
    CounterRow.reading raw ⟨x, signal, [offset], uint64At raw offset⟩ =
      (x, signal, wordOrAbsent (uint64At raw offset)) := by
  simp [CounterRow.reading, wordOrAbsent_uint64At room]

theorem reading_beside {other : Nat} (other_room : other + 8 ≤ raw.length)
    (room : offset + 8 ≤ raw.length) :
    CounterRow.reading raw ⟨x, signal, [other, offset], uint64At raw offset⟩ =
      (x, signal, (wordOrAbsent (uint64At raw other)).bind
        (fun _ => wordOrAbsent (uint64At raw offset))) := by
  rw [wordOrAbsent_uint64At other_room, wordOrAbsent_uint64At room]
  cases known : present raw other <;> simp [CounterRow.reading, known]

theorem reading_clamped {util low high : Nat} (util_room : util + 8 ≤ raw.length)
    (low_room : low + 8 ≤ raw.length) (high_room : high + 8 ≤ raw.length)
    (load runnable est : Option UInt64) :
    CounterRow.reading raw ⟨x, signal, [util, low, high], clamped raw util low high⟩ =
      (x, signal, PeltSignals.uclampedAvg ⟨load, runnable, wordOrAbsent (uint64At raw util),
        wordOrAbsent (uint64At raw low), wordOrAbsent (uint64At raw high), est⟩) := by
  rw [wordOrAbsent_uint64At util_room, wordOrAbsent_uint64At low_room,
    wordOrAbsent_uint64At high_room]
  cases known_util : present raw util <;> cases known_low : present raw low <;>
    cases known_high : present raw high <;>
      simp [CounterRow.reading, PeltSignals.uclampedAvg, known_util, known_low, known_high, clamped]

end reading

theorem decode_rqPelt (long : 64 ≤ raw.length) (cpu : 0 ≤ int32At raw 8) :
    ∃ e, Event.decode .rqPelt raw = .ok (.rqPelt e) ∧ e.ts = uint64At raw 0 ∧
      e.cpu = (int32At raw 8).toUInt32 ∧ e.peltClass = .ofTag (int32At raw 12) ∧
      e.readings = (rqPeltRows raw (int32At raw 12)).map (CounterRow.reading raw) := by
  have whole : ¬ raw.length < Channel.rqPelt.recordSize := Nat.not_lt.mpr long
  have number : cpuNumber? (int32At raw 8) = some (int32At raw 8).toUInt32 :=
    if_neg (Int32.not_lt.mpr cpu)
  have read : Event.readRqPelt raw = .ok _ := Event.cpuOrError_map_eq_ok_iff.mpr ⟨_, number, rfl⟩
  have decoded : Event.decode .rqPelt raw = (Event.readRqPelt raw).map .rqPelt := if_neg whole
  rw [read] at decoded
  refine ⟨_, decoded, rfl, rfl, rfl, ?_⟩
  -- The row of the clamped value is told by its three fields, the others by one each.
  have clamp := @reading_clamped raw _ .utilAvgCpu CpuSignal.uclampedAvg 32 48 56
    (by omega) (by omega) (by omega)
  unfold rqPeltRows PeltClass.ofTag
  repeat' split
  all_goals
    simp (disch := omega) only [RqPelt.readings, List.map_cons, List.map_nil, reading_field, ← clamp]

theorem text_nameAt (room : 28 ≤ raw.length) :
    (TaskName.ofBytes (field raw 12 16)).text = FixedText.text (field raw 12 16) := by
  have width : (field raw 12 16).length = 16 := by
    simp [field]
    omega
  have same : FixedText.fit TaskName.width (field raw 12 16) = field raw 12 16 := by
    simp [FixedText.fit, TaskName.width, width]
  simp only [TaskName.text, TaskName.ofBytes, same]

theorem decode_taskPelt (long : 88 ≤ raw.length) :
    ∃ e, Event.decode .taskPelt raw = .ok (.taskPelt e) ∧ e.ts = uint64At raw 0 ∧
      e.pid = int32At raw 8 ∧ e.name.text = FixedText.text (field raw 12 16) ∧
      e.readings = (taskPeltRows raw).map (CounterRow.reading raw) := by
  have whole : ¬ raw.length < Channel.taskPelt.recordSize := Nat.not_lt.mpr long
  have decoded : Event.decode .taskPelt raw = .ok (.taskPelt (Event.readTaskPelt raw)) :=
    if_neg whole
  refine ⟨_, decoded, rfl, rfl, text_nameAt (by omega), ?_⟩
  · have clamp := @reading_clamped raw _ .utilAvgTask TaskSignal.uclampedAvg 48 72 80
      (by omega) (by omega) (by omega)
    have average := @reading_beside raw _ .utilEstTask TaskSignal.utilEstEwma 64 56
      (by omega) (by omega)
    simp (disch := omega) only [taskPeltRows, TaskPelt.readings, Event.readTaskPelt, List.map_cons,
      List.map_nil, reading_field, ← clamp, average]

end rows

section processor

variable {p : Processor} {raw : List UInt8}

theorem rqPeltNotices_ofTag {e : RqPelt} {kind : Int32} (tag : e.peltClass = .ofTag kind) :
    Processor.rqPeltNotices e =
      if kind ∈ [0, 1, 2, 3, 4] then [] else [.unexpectedPelt kind e.cpu] := by
  unfold PeltClass.ofTag at tag
  repeat' split at tag
  all_goals simp_all [Processor.rqPeltNotices]

theorem Processor.consume_output {e : Event} (decoded : Event.decode p.channel raw = .ok e) :
    (p.consume raw).2 = ⟨e.records p.setup, (p.countDecoded.note e).2⟩ := by
  simp only [consume, decoded]
  rfl

theorem Processor.consume_rqPelt (channel : p.channel = .rqPelt) (long : 64 ≤ raw.length)
    (cpu : 0 ≤ int32At raw 8) :
    (p.consume raw).2 =
      ⟨rowRecords raw p.setup.switches (.cpu (int32At raw 8).toUInt32)
          (rqPeltRows raw (int32At raw 12)),
        if int32At raw 12 ∈ [0, 1, 2, 3, 4] then []
        else [.unexpectedPelt (int32At raw 12) (int32At raw 8).toUInt32]⟩ := by
  obtain ⟨e, decoded, ts, number, tag, readings⟩ := decode_rqPelt long cpu
  rw [← channel] at decoded
  have records : (Event.rqPelt e).records p.setup = rowRecords raw p.setup.switches
      (.cpu (int32At raw 8).toUInt32) (rqPeltRows raw (int32At raw 12)) := by
    simp only [Event.records, Event.observations, RqPelt.observations, Event.ts, ts, number, readings]
    exact counters_readings _ _ _
  have notices := rqPeltNotices_ofTag tag
  rw [number] at notices
  rw [consume_output decoded, records, ← notices]
  rfl

theorem Processor.consume_taskPelt (channel : p.channel = .taskPelt) (long : 88 ≤ raw.length) :
    (p.consume raw).2 =
      ⟨if p.setup.filter.accepts (int32At raw 8) (FixedText.text (field raw 12 16)) then
          rowRecords raw p.setup.switches
            (.task (FixedText.text (field raw 12 16)) (int32At raw 8)) (taskPeltRows raw)
        else [], []⟩ := by
  obtain ⟨e, decoded, ts, pid, text, readings⟩ := decode_taskPelt long
  rw [← channel] at decoded
  rw [consume_output decoded]
  simp only [Event.records, Event.observations, TaskPelt.observations, Event.ts, note, ts, pid, text,
    readings]
  split
  · rw [counters_readings]
  · rfl

end processor

/-- A processor of either channel says, at any time, what the octets of the record in hand say. -/
theorem Processor.pelt_octets_to_counters (setup : Setup) (before : List Request) (raw : List UInt8) :
    (64 ≤ raw.length → 0 ≤ int32At raw 8 →
      let output := (((fresh .rqPelt setup).after before).consume raw).2
      let cpu := (int32At raw 8).toUInt32
      let kind := int32At raw 12
      output.records = rowRecords raw setup.switches (.cpu cpu) (rqPeltRows raw kind) ∧
        output.notices = (if kind ∈ [0, 1, 2, 3, 4] then [] else [.unexpectedPelt kind cpu]) ∧
        ∀ notice ∈ output.notices, notice.severity = .warn) ∧
    (88 ≤ raw.length →
      let output := (((fresh .taskPelt setup).after before).consume raw).2
      let pid := int32At raw 8
      let comm := FixedText.text (field raw 12 16)
      output.records =
          (if setup.filter.accepts pid comm then
            rowRecords raw setup.switches (.task comm pid) (taskPeltRows raw)
          else []) ∧
        output.notices = []) := by
  constructor
  · intro long natural output cpu kind
    obtain ⟨channel, same_setup⟩ := (fresh .rqPelt setup).after_fixed before
    have said : output = _ := consume_rqPelt channel long natural
    rw [same_setup] at said
    rw [said]
    refine ⟨rfl, rfl, ?_⟩
    intro notice member
    split at member
    · simp at member
    · obtain rfl := List.mem_singleton.mp member
      rfl
  · intro long output pid comm
    obtain ⟨channel, same_setup⟩ := (fresh .taskPelt setup).after_fixed before
    have said : output = _ := consume_taskPelt channel long
    rw [same_setup] at said
    rw [said]
    exact ⟨rfl, rfl⟩

theorem sparse_pelt_octets_counted :
    let setup : Setup := ⟨.every, .empty, .empty⟩
    let crossed := Event.writeRqPelt ⟨258, 1, .fair, ⟨none, none, some 5, some 9, some 3, none⟩⟩
    let odd := Event.writeRqPelt ⟨258, 1, .unknown 7, ⟨some 1, none, none, none, none, none⟩⟩
    let lone := Event.writeTaskPelt ⟨fun _ => 0, 1, by decide⟩
      ⟨9, -4, .ofString "a", ⟨some 6, none, none, some 1, some 2, none⟩, some 8⟩
    let rq := (Processor.fresh .rqPelt setup).after [.consume lone, .finish]
    let task := (Processor.fresh .taskPelt setup).after [.consume odd]
    (rq.consume crossed).2.records =
        [⟨258, .counter (.cpu 1 .utilAvg) 5⟩, ⟨258, .counter (.cpu 1 .uclampedAvg) 9⟩] ∧
      (rq.consume odd).2.notices = [.unexpectedPelt 7 1] ∧
      (task.consume lone).2.records = [⟨9, .counter (.task "a" (-4) .loadAvg) 6⟩] := by
  intro setup crossed odd lone rq task
  obtain ⟨clamped, -⟩ := (Processor.pelt_octets_to_counters setup [.consume lone, .finish] crossed).1
    (by decide +kernel) (by decide +kernel)
  obtain ⟨-, warned, -⟩ := (Processor.pelt_octets_to_counters setup [.consume lone, .finish] odd).1
    (by decide +kernel) (by decide +kernel)
  obtain ⟨alone, -⟩ := (Processor.pelt_octets_to_counters setup [.consume odd] lone).2
    (by decide +kernel)
  exact ⟨clamped.trans (by decide +kernel), warned.trans (by decide +kernel),
    alone.trans (by decide +kernel)⟩

end SchedTelemetry
