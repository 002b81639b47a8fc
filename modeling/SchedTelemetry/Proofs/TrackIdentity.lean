import Mathlib.Data.List.Nodup
import SchedTelemetry.Proofs.SeriesNumbers
import SchedTelemetry.Proofs.WireReading

set_option autoImplicit false

namespace SchedTelemetry

open Perfetto

namespace Perfetto.Packet

def introduced? (p : Packet) : Option TrackDescriptor :=
  match p.content with
  | .descriptor d => some d
  | _ => none

def event? (p : Packet) : Option TrackEvent :=
  match p.content with
  | .event _ e => some e
  | _ => none

end Perfetto.Packet

def Observation.series : Observation → List Series
  | .counter track _ => [.counter track]
  | .balanceEntry thisCpu _ _ => [.loadBalance thisCpu]
  | .balanceExit thisCpu _ => [.loadBalance thisCpu]
  | .domains stats => stats.levels.map (fun level => .balanceInterval stats.cpu level.name)
  | .ipi fromCpu _ _ _ => [.ipi fromCpu]

theorem Observation.marks_series (o : Observation) : o.marks.map (·.series) = o.series := by
  cases o with
  | domains stats => simp [marks, series, Function.comp_def]
  | counter | balanceEntry | balanceExit | ipi => rfl

def seriesOf (records : List Record) : List Series :=
  records.flatMap (·.observation.series)

theorem marks_series (records : List Record) :
    (records.flatMap (·.observation.marks)).map (·.series) = seriesOf records := by
  simp [seriesOf, List.map_flatMap, Observation.marks_series]

theorem timedMarks_marks (records : List Record) :
    (records.flatMap Record.timedMarks).map (·.2) = records.flatMap (·.observation.marks) := by
  simp [List.map_flatMap, Record.timedMarks, Function.comp_def]

theorem timedMarks_series (records : List Record) :
    (records.flatMap Record.timedMarks).map (·.2.series) = seriesOf records := by
  rw [← marks_series, ← timedMarks_marks, List.map_map]
  rfl

def introductions (packets : List Packet) : List TrackDescriptor :=
  packets.filterMap Packet.introduced?

def trackEvents (packets : List Packet) : List TrackEvent :=
  packets.filterMap Packet.event?

def descriptions (past : List Series) : List TrackDescriptor :=
  past.eraseDups.mapIdx (fun i s => s.descriptor (UInt64.ofNat (i + 1)))

theorem descriptions_uuids (past : List Series) :
    (descriptions past).map (·.uuid) =
      (List.range past.eraseDups.length).map (fun i => UInt64.ofNat (i + 1)) := by
  apply List.ext_getElem
  · simp [descriptions]
  · intro i _ _
    simp [descriptions, Series.descriptor]

theorem numberOf_described {past : List Series} {s : Series} (seen : s ∈ past) :
    numberOf past s ∈ (descriptions past).map (·.uuid) := by
  rw [descriptions_uuids]
  apply List.mem_map_of_mem
  rw [List.mem_range]
  exact List.idxOf_lt_length_of_mem (List.mem_eraseDups.mpr seen)

namespace SeriesTable.Numbers

variable {t : SeriesTable} {past : List Series} (numbers : t.Numbers past)

include numbers

theorem packets_eq (ts : UInt64) (m : Mark) :
    t.packets ts m =
      (if m.series ∈ past then [] else [m.series.packet (numberOf (past ++ [m.series]) m.series)])
        ++ [m.packet ts (numberOf (past ++ [m.series]) m.series)] := by
  have known := numbers.known m.series
  simp only [SeriesTable.packets]
  by_cases seen : m.series ∈ past
  · rw [if_pos seen] at known ⊢
    rw [known]
    rfl
  · rw [if_neg seen] at known ⊢
    rw [known, numberOf_unseen seen, numbers.next_eq]
    rfl

theorem trackEvents_packets (ts : UInt64) (m : Mark) :
    trackEvents (t.packets ts m) = [m.event (numberOf (past ++ [m.series]) m.series)] := by
  rw [numbers.packets_eq]
  split <;> rfl

theorem introductions_packets (ts : UInt64) (m : Mark) :
    descriptions past ++ introductions (t.packets ts m) = descriptions (past ++ [m.series]) := by
  rw [numbers.packets_eq, descriptions, descriptions]
  by_cases seen : m.series ∈ past
  · rw [if_pos seen, eraseDups_seen seen]
    exact List.append_nil _
  · rw [if_neg seen, eraseDups_unseen seen, numberOf_unseen seen, List.mapIdx_concat]
    rfl

end SeriesTable.Numbers

theorem introductions_append (ps qs : List Packet) :
    introductions (ps ++ qs) = introductions ps ++ introductions qs :=
  List.filterMap_append

theorem trackEvents_append (ps qs : List Packet) :
    trackEvents (ps ++ qs) = trackEvents ps ++ trackEvents qs :=
  List.filterMap_append

def IntroducedBefore (known : List UInt64) : List Packet → Prop
  | [] => True
  | p :: rest =>
    (∀ e, p.event? = some e → e.track ∈ known) ∧
      IntroducedBefore (known ++ (introductions [p]).map (·.uuid)) rest

theorem introducedBefore_append (known : List UInt64) (ps qs : List Packet) :
    IntroducedBefore known (ps ++ qs) ↔
      IntroducedBefore known ps ∧
        IntroducedBefore (known ++ (introductions ps).map (·.uuid)) qs := by
  induction ps generalizing known with
  | nil => simp [IntroducedBefore, introductions]
  | cons p rest ih =>
    have first : introductions (p :: rest) = introductions [p] ++ introductions rest :=
      introductions_append [p] rest
    rw [List.cons_append, IntroducedBefore, IntroducedBefore, ih, first, List.map_append,
      List.append_assoc, and_assoc]

namespace SeriesTable.Numbers

theorem packets_introducedBefore {t : SeriesTable} {past : List Series} (numbers : t.Numbers past)
    (ts : UInt64) (m : Mark) :
    IntroducedBefore ((descriptions past).map (·.uuid)) (t.packets ts m) := by
  have described : numberOf (past ++ [m.series]) m.series ∈
      (descriptions (past ++ [m.series])).map (·.uuid) :=
    numberOf_described (List.mem_append_right _ List.mem_cons_self)
  have event_only (n : UInt64) : introductions [m.packet ts n] = [] := rfl
  rw [← numbers.introductions_packets ts m, numbers.packets_eq, introductions_append, event_only,
    List.append_nil, List.map_append] at described
  rw [numbers.packets_eq, introducedBefore_append]
  constructor
  · split
    · trivial
    · refine ⟨?_, trivial⟩
      intro e no_event
      cases no_event
  · refine ⟨?_, trivial⟩
    rintro e ⟨⟩
    exact described

theorem allPackets_introducedBefore {t : SeriesTable} {past : List Series}
    (numbers : t.Numbers past) (marks : List (UInt64 × Mark)) :
    IntroducedBefore ((descriptions past).map (·.uuid)) (t.allPackets marks) := by
  induction marks generalizing t past with
  | nil => trivial
  | cons x rest ih =>
    obtain ⟨ts, m⟩ := x
    rw [allPackets, introducedBefore_append, ← List.map_append, numbers.introductions_packets]
    exact ⟨numbers.packets_introducedBefore ts m, ih (numbers.add m.series)⟩

theorem introductions_allPackets {t : SeriesTable} {past : List Series} (numbers : t.Numbers past)
    (marks : List (UInt64 × Mark)) :
    descriptions past ++ introductions (t.allPackets marks) =
      descriptions (past ++ marks.map (·.2.series)) := by
  induction marks generalizing t past with
  | nil => rw [List.map_nil, List.append_nil]; exact List.append_nil _
  | cons x rest ih =>
    obtain ⟨ts, m⟩ := x
    rw [allPackets, introductions_append, ← List.append_assoc, numbers.introductions_packets,
      ih (numbers.add m.series), List.append_assoc]
    rfl

theorem trackEvents_allPackets {t : SeriesTable} {past : List Series} (numbers : t.Numbers past)
    (marks : List (UInt64 × Mark)) :
    trackEvents (t.allPackets marks) =
      marks.map (fun x => x.2.event (numberOf (past ++ marks.map (·.2.series)) x.2.series)) := by
  induction marks generalizing t past with
  | nil => rfl
  | cons x rest ih =>
    obtain ⟨ts, m⟩ := x
    -- Series that come later do not change the number of this one.
    have kept : numberOf (past ++ [m.series] ++ rest.map (·.2.series)) m.series =
        numberOf (past ++ [m.series]) m.series :=
      numberOf_append (List.mem_append_right _ List.mem_cons_self) _
    rw [allPackets, trackEvents_append, numbers.trackEvents_packets, ih (numbers.add m.series),
      ← kept, List.append_assoc]
    rfl

end SeriesTable.Numbers

/-- What the tracks in `packets` tell of the series of `records`. -/
structure TrackIdentity (packets : List Packet) (records : List Record) : Prop where
  introduced_before : ∀ before p after, packets = before ++ p :: after →
    ∀ e, p.event? = some e → e.track ∈ (introductions before).map (·.uuid)
  introduced_in_order : introductions packets = descriptions (seriesOf records)
  uuids_count : (introductions packets).map (·.uuid) =
    (List.range (seriesOf records).eraseDups.length).map (fun i => UInt64.ofNat (i + 1))
  introduced_once : ((introductions packets).map (·.uuid)).Nodup
  events_eq : trackEvents packets = (records.flatMap (·.observation.marks)).map
    (fun m => m.event (numberOf (seriesOf records) m.series))
  same_track_iff : ∀ x ∈ (trackEvents packets).zip (seriesOf records),
    ∀ y ∈ (trackEvents packets).zip (seriesOf records), x.1.track = y.1.track ↔ x.2 = y.2

theorem introductions_tracePackets (records : List Record) :
    introductions (tracePackets records) = descriptions (seriesOf records) := by
  have described := SeriesTable.empty_numbers.introductions_allPackets
    (records.flatMap Record.timedMarks)
  rw [List.nil_append, timedMarks_series] at described
  exact described

theorem trackEvents_tracePackets (records : List Record) :
    trackEvents (tracePackets records) =
      (records.flatMap (·.observation.marks)).map
        (fun m => m.event (numberOf (seriesOf records) m.series)) := by
  have events := SeriesTable.empty_numbers.trackEvents_allPackets
    (records.flatMap Record.timedMarks)
  rw [List.nil_append, timedMarks_series] at events
  rw [← timedMarks_marks, List.map_map]
  exact events

theorem tracePackets_introducedBefore (records : List Record) :
    IntroducedBefore [] (tracePackets records) := by
  refine ⟨?_, SeriesTable.empty_numbers.allPackets_introducedBefore _⟩
  intro e no_event
  cases no_event

theorem numbers_nodup {n : Nat} (bound : n < UInt64.size) :
    ((List.range n).map (fun i => UInt64.ofNat (i + 1))).Nodup := by
  refine List.Nodup.map_on ?_ List.nodup_range
  intro i here j there same
  have room {k : Nat} (within : k ∈ List.range n) : k + 1 < UInt64.size :=
    Nat.lt_of_le_of_lt (List.mem_range.mp within) bound
  have values := congrArg UInt64.toNat same
  rw [UInt64.toNat_ofNat_of_lt' (room here), UInt64.toNat_ofNat_of_lt' (room there)] at values
  exact Nat.succ.inj values

theorem tracePackets_trackIdentity {records : List Record}
    (bound : (seriesOf records).eraseDups.length < UInt64.size) :
    TrackIdentity (tracePackets records) records := by
  have introduced := introductions_tracePackets records
  have events := trackEvents_tracePackets records
  have uuids := descriptions_uuids (seriesOf records)
  refine ⟨?_, introduced, ?_, ?_, events, ?_⟩
  · intro before p after whole e event
    have sound := tracePackets_introducedBefore records
    rw [whole, introducedBefore_append] at sound
    exact sound.2.1 e event
  · rw [introduced, uuids]
  · rw [introduced, uuids]
    exact numbers_nodup bound
  · have numbered : ∀ x ∈ (trackEvents (tracePackets records)).zip (seriesOf records),
        x.1.track = numberOf (seriesOf records) x.2 ∧ x.2 ∈ seriesOf records := by
      intro x member
      refine ⟨?_, (List.of_mem_zip member).2⟩
      rw [events, ← marks_series] at member
      rw [List.zip_map', List.mem_map] at member
      obtain ⟨m, -, rfl⟩ := member
      exact congrArg (numberOf · m.series) (marks_series records)
    intro x here y there
    obtain ⟨track, used⟩ := numbered x here
    obtain ⟨track', used'⟩ := numbered y there
    rw [track, track']
    exact numberOf_inj bound used used'

/-- What a writer that starts and writes records has taken reads back as the packets of the trace, and each
series of the records has a track of its own in them. -/
theorem TraceWriter.written_trackIdentity (records : List Record)
    (bound : (seriesOf records).eraseDups.length < UInt64.size) :
    ∃ w packets, (create .unlimited .perfetto).start.andThen (fun w => w.writeAll records) = .done w ∧
      w.out.content = packetBytes (tracePackets records) ∧
      readTrace w.out.content = some packets ∧
      packets.map ReadPacket.packet = tracePackets records ∧
      TrackIdentity (packets.map ReadPacket.packet) records := by
  obtain ⟨started, opened⟩ := start_opened .perfetto
  have adds := (create .unlimited .perfetto).start.state.writeAll_adds records
  have written := adds.done opened.never
  have content := adds.content_eq written
  have whole := opened.traceBytes_eq records
  rw [← content, tailBytes, List.append_nil] at whole
  refine ⟨((create .unlimited .perfetto).start.state.writeAll records).state,
    (tracePackets records).map Packet.asRead, ?_, whole, ?_, packet_asRead _, ?_⟩
  · simp only [Attempt.andThen]
    rw [started]
    exact congrArg (Attempt.mk _) written
  · exact (congrArg readTrace whole).trans (readTrace_entries _)
  · rw [packet_asRead]
    exact tracePackets_trackIdentity bound

def namesakes : List Record :=
  [⟨1, .counter (.task "x-" 1 .utilAvg) 5⟩, ⟨2, .counter (.task "x" (-1) .utilAvg) 6⟩,
    ⟨3, .balanceEntry 0 1 "idle"⟩, ⟨4, .domains ⟨0, [⟨"MC", 8⟩, ⟨"DIE", 16⟩]⟩⟩,
    ⟨5, .ipi 0 1 ⟨0, none⟩ ⟨0, none⟩⟩, ⟨6, .counter (.task "x-" 1 .utilAvg) 7⟩]

theorem namesakes_trackIdentity :
    (Track.task "x-" 1 .utilAvg).name = (Track.task "x" (-1) .utilAvg).name ∧
      ∃ w packets,
        (TraceWriter.create .unlimited .perfetto).start.andThen (fun w => w.writeAll namesakes) =
          .done w ∧
        w.out.content = packetBytes (tracePackets namesakes) ∧
        readTrace w.out.content = some packets ∧
        packets.map ReadPacket.packet = tracePackets namesakes ∧
        TrackIdentity (packets.map ReadPacket.packet) namesakes :=
  ⟨by decide +kernel, TraceWriter.written_trackIdentity namesakes (by decide +kernel)⟩

end SchedTelemetry
