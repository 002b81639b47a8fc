import SchedTelemetry.Proofs.TrackIdentity
import SchedTelemetry.Proofs.WireReading

set_option autoImplicit false

namespace SchedTelemetry

open Perfetto

def CpuSignal.shown : CpuSignal → String
  | .loadAvg => "load_avg"
  | .runnableAvg => "runnable_avg"
  | .utilAvg => "util_avg"
  | .uclampedAvg => "uclamped_avg"
  | .utilAvgRt => "util_avg_rt"
  | .utilAvgDl => "util_avg_dl"
  | .utilAvgIrq => "util_avg_irq"
  | .loadAvgThermal => "load_avg_thermal"
  | .utilEstEnqueued => "util_est.enqueued"
  | .nrRunning => "nr_running"
  | .idle => "idle_state"
  | .idleMiss => "idle_miss"
  | .misfit => "misfit_task_load"

def TaskSignal.shown : TaskSignal → String
  | .loadAvg => "load_avg"
  | .runnableAvg => "runnable_avg"
  | .utilAvg => "util_avg"
  | .uclampedAvg => "uclamped_avg"
  | .utilEstEnqueued => "util_est.enqueued"
  | .utilEstEwma => "util_est.ewma"

def Track.shown : Track → String
  | .cpu c signal => "CPU" ++ Numeral.decimal c.toNat ++ " " ++ signal.shown
  | .task name pid signal => name ++ "-" ++ Numeral.decimal pid.toInt ++ " " ++ signal.shown
  | .overloaded => "overloaded"
  | .overutilized => "overutilized"

/-- An event on the track of a series, right behind the descriptor of the track when the series is not
among those of `past`. The packets are all on sequence 1, and clock 3 is the monotonic one. -/
def eventPackets (past : List Series) (ts : UInt64) (s : Series) (name : String) (isCounter : Bool)
    (kind : EventKind) (annotations : List Annotation) : List ReadPacket :=
  let uuid := numberOf (past ++ [s]) s
  (if s ∈ past then [] else [⟨⟨1, .descriptor ⟨uuid, name, isCounter⟩⟩, none⟩])
    ++ [⟨⟨1, .event ts ⟨uuid, kind, annotations⟩⟩, some 3⟩]

def levelPackets (past : List Series) (ts : UInt64) (cpu : Int32) :
    List DomainLevel → List ReadPacket
  | [] => []
  | level :: rest =>
    let s := Series.balanceInterval cpu level.name
    eventPackets past ts s
        ("CPU" ++ Numeral.decimal cpu.toInt ++ " " ++ level.name ++ " balance_interval") true
        (.counter level.balanceInterval.toInt64) []
      ++ levelPackets (past ++ [s]) ts cpu rest

def Observation.packets (past : List Series) (ts : UInt64) : Observation → List ReadPacket
  | .counter track value =>
    eventPackets past ts (.counter track) track.shown true (.counter value) []
  | .balanceEntry thisCpu lbCpu phase =>
    eventPackets past ts (.loadBalance thisCpu)
      ("CPU" ++ Numeral.decimal thisCpu.toInt ++ " load_balance") false (.sliceBegin phase)
      [⟨"lb_cpu", .int lbCpu.toInt64⟩]
  | .balanceExit thisCpu _ =>
    eventPackets past ts (.loadBalance thisCpu)
      ("CPU" ++ Numeral.decimal thisCpu.toInt ++ " load_balance") false .sliceEnd []
  | .domains stats => levelPackets past ts stats.cpu stats.levels
  | .ipi fromCpu targetCpu callsite callback =>
    eventPackets past ts (.ipi fromCpu) ("CPU" ++ Numeral.decimal fromCpu.toInt ++ " ipi") false
      (.instant ("ipi -> CPU" ++ Numeral.decimal targetCpu.toInt))
      [⟨"target_cpu", .int targetCpu.toInt64⟩,
        ⟨"callsite", .text (callsite.name.getD "")⟩, ⟨"callsite_addr", .pointer callsite.address⟩,
        ⟨"callback", .text (callback.name.getD "")⟩, ⟨"callback_addr", .pointer callback.address⟩]

def recordPackets (past : List Series) : List Record → List ReadPacket
  | [] => []
  | r :: rest =>
    r.observation.packets past r.ts ++ recordPackets (past ++ r.observation.series) rest

theorem CpuSignal.name_eq (x : CpuSignal) : x.name = x.shown := by
  cases x <;> rfl

theorem TaskSignal.name_eq (x : TaskSignal) : x.name = x.shown := by
  cases x <;> rfl

theorem Track.name_eq (track : Track) : track.name = track.shown := by
  cases track with
  | cpu c signal => rw [name, shown, signal.name_eq, cpuLabel]
  | task name pid signal => rw [Track.name, shown, signal.name_eq]
  | overloaded | overutilized => rfl

namespace SeriesTable.Numbers

variable {t : SeriesTable} {past : List Series} (numbers : t.Numbers past)

include numbers

theorem asRead_packets (ts : UInt64) (m : Mark) :
    (t.packets ts m).map Packet.asRead =
      eventPackets past ts m.series m.series.name m.series.isCounter m.kind m.annotations := by
  rw [numbers.packets_eq]
  split
  next seen =>
    rw [eventPackets, if_pos seen]
    rfl
  next unseen =>
    rw [eventPackets, if_neg unseen]
    rfl

theorem addAll (ss : List Series) : (t.addAll ss).Numbers (past ++ ss) := by
  induction ss generalizing t past with
  | nil =>
    rw [List.append_nil]
    exact numbers
  | cons s rest ih =>
    have later := ih (numbers.add s)
    rw [List.append_assoc] at later
    exact later

theorem levelPackets_eq (ts : UInt64) (cpu : Int32) (levels : List DomainLevel) :
    (t.allPackets (levels.map fun level =>
        (ts, ⟨.balanceInterval cpu level.name, .counter level.balanceInterval.toInt64, []⟩))).map
      Packet.asRead = levelPackets past ts cpu levels := by
  induction levels generalizing t past with
  | nil => rfl
  | cons level rest ih =>
    rw [List.map_cons, allPackets, List.map_append, numbers.asRead_packets, ih (numbers.add _),
      levelPackets]
    rfl

theorem observationPackets_eq (r : Record) :
    (t.allPackets r.timedMarks).map Packet.asRead = r.observation.packets past r.ts := by
  have single (m : Mark) : (t.allPackets [(r.ts, m)]).map Packet.asRead =
      eventPackets past r.ts m.series m.series.name m.series.isCounter m.kind m.annotations := by
    rw [allPackets, List.map_append, numbers.asRead_packets]
    exact List.append_nil _
  rw [Record.timedMarks]
  cases r.observation with
  | domains stats =>
    rw [Observation.packets, ← numbers.levelPackets_eq, Observation.marks, List.map_map]
    rfl
  | counter track value =>
    rw [Observation.packets, ← track.name_eq]
    exact single _
  | balanceEntry | balanceExit => exact single _
  | ipi fromCpu targetCpu callsite callback =>
    have label : "ipi -> CPU" ++ Numeral.decimal targetCpu.toInt =
        "ipi -> " ++ cpuLabel targetCpu.toInt := by
      rw [cpuLabel, ← String.append_assoc]
      rfl
    rw [Observation.packets, label]
    exact single _

theorem recordPackets_eq (records : List Record) :
    (t.allPackets (records.flatMap Record.timedMarks)).map Packet.asRead =
      recordPackets past records := by
  induction records generalizing t past with
  | nil => rfl
  | cons r rest ih =>
    have known := numbers.addAll (r.timedMarks.map (·.2.series))
    have series : r.timedMarks.map (·.2.series) = r.observation.series := by
      rw [← Observation.marks_series, Record.timedMarks, List.map_map]
      rfl
    rw [List.flatMap_cons, allPackets_append, List.map_append, numbers.observationPackets_eq,
      ih known, series]
    rfl

end SeriesTable.Numbers

theorem asRead_tracePackets (records : List Record) :
    (tracePackets records).map Packet.asRead =
      ⟨⟨1, .sequenceStart⟩, none⟩ :: recordPackets [] records := by
  rw [tracePackets, List.map_cons, SeriesTable.empty_numbers.recordPackets_eq]
  rfl

/-- The octets that a writer leaves behind read back as the start of the sequence and the packets of its
records, one record after the other. -/
theorem TraceWriter.written_packets_read_back (records : List Record) :
    ∃ w, ((create .unlimited .perfetto).start.andThen (fun w => w.writeAll records)).andThen close =
        .done w ∧
      readTrace w.out.sink.held =
        some (⟨⟨1, .sequenceStart⟩, none⟩ :: recordPackets [] records) := by
  obtain ⟨w, written, held⟩ := written_whole .perfetto records
  refine ⟨w, written, ?_⟩
  rw [held, traceBytes, packetBytes, readTrace_entries, asRead_tracePackets]

end SchedTelemetry
