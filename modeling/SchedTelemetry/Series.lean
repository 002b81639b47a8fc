import SchedTelemetry.Perfetto.Packet
import SchedTelemetry.Record

set_option autoImplicit false

namespace SchedTelemetry

open Perfetto

inductive Series where
  | counter (track : Track)
  | balanceInterval (cpu : Int32) (level : String)
  | loadBalance (cpu : Int32)
  | ipi (cpu : Int32)
  deriving DecidableEq

namespace Series

def name : Series → String
  | .counter track => track.name
  | .balanceInterval c level => cpuLabel c.toInt ++ " " ++ level ++ " balance_interval"
  | .loadBalance c => cpuLabel c.toInt ++ " load_balance"
  | .ipi c => cpuLabel c.toInt ++ " ipi"

def isCounter : Series → Bool
  | .counter _ => true
  | .balanceInterval .. => true
  | .loadBalance _ => false
  | .ipi _ => false

def descriptor (s : Series) (uuid : UInt64) : TrackDescriptor :=
  ⟨uuid, s.name, s.isCounter⟩

end Series

structure Mark where
  series : Series
  kind : EventKind
  annotations : List Annotation
  deriving DecidableEq

def CodeAddress.annotations (a : CodeAddress) (name : String) : List Annotation :=
  [⟨name, .text (a.name.getD "")⟩, ⟨name ++ "_addr", .pointer a.address⟩]

def Observation.marks : Observation → List Mark
  | .counter track value => [⟨.counter track, .counter value, []⟩]
  | .balanceEntry thisCpu lbCpu phase =>
    [⟨.loadBalance thisCpu, .sliceBegin phase, [⟨"lb_cpu", .int lbCpu.toInt64⟩]⟩]
  | .balanceExit thisCpu _ => [⟨.loadBalance thisCpu, .sliceEnd, []⟩]
  | .domains stats =>
    stats.levels.map fun level =>
      ⟨.balanceInterval stats.cpu level.name, .counter level.balanceInterval.toInt64, []⟩
  | .ipi fromCpu targetCpu callsite callback =>
    [⟨.ipi fromCpu, .instant ("ipi -> " ++ cpuLabel targetCpu.toInt),
      ⟨"target_cpu", .int targetCpu.toInt64⟩ :: callsite.annotations "callsite"
        ++ callback.annotations "callback"⟩]

inductive SliceSeries where
  | loadBalance (cpu : Int32)
  | ipi (cpu : Int32)
  deriving DecidableEq

/-- The numbers given so far, with the last of them. There is one table for the tracks, one for the
balance intervals, which are known by their names, and one for the slices. -/
structure SeriesTable where
  last : UInt64
  tracks : List (Track × UInt64)
  intervals : List (String × UInt64)
  slices : List (SliceSeries × UInt64)

namespace SeriesTable

def empty : SeriesTable := ⟨0, [], [], []⟩

def number? (t : SeriesTable) (s : Series) : Option UInt64 :=
  match s with
  | .counter track => t.tracks.lookup track
  | .balanceInterval .. => t.intervals.lookup s.name
  | .loadBalance c => t.slices.lookup (.loadBalance c)
  | .ipi c => t.slices.lookup (.ipi c)

def next (t : SeriesTable) : UInt64 := t.last + 1

def give (t : SeriesTable) (s : Series) : SeriesTable :=
  match s with
  | .counter track => { t with last := t.next, tracks := (track, t.next) :: t.tracks }
  | .balanceInterval .. => { t with last := t.next, intervals := (s.name, t.next) :: t.intervals }
  | .loadBalance c => { t with last := t.next, slices := (.loadBalance c, t.next) :: t.slices }
  | .ipi c => { t with last := t.next, slices := (.ipi c, t.next) :: t.slices }

def add (t : SeriesTable) (s : Series) : SeriesTable :=
  match t.number? s with
  | some _ => t
  | none => t.give s

end SeriesTable

def sequenceId : UInt32 := 1

def Mark.event (m : Mark) (uuid : UInt64) : TrackEvent :=
  ⟨uuid, m.kind, m.annotations⟩

def Mark.packet (m : Mark) (ts : UInt64) (uuid : UInt64) : Packet :=
  ⟨sequenceId, .event ts (m.event uuid)⟩

def Series.packet (s : Series) (uuid : UInt64) : Packet :=
  ⟨sequenceId, .descriptor (s.descriptor uuid)⟩

-- The packets of one mark: the event, after a descriptor of its series when the series is new.
def SeriesTable.packets (t : SeriesTable) (ts : UInt64) (m : Mark) : List Packet :=
  match t.number? m.series with
  | some uuid => [m.packet ts uuid]
  | none => [m.series.packet t.next, m.packet ts t.next]

def SeriesTable.allPackets (t : SeriesTable) : List (UInt64 × Mark) → List Packet
  | [] => []
  | (ts, m) :: rest => t.packets ts m ++ (t.add m.series).allPackets rest

def Record.timedMarks (r : Record) : List (UInt64 × Mark) :=
  r.observation.marks.map (fun m => (r.ts, m))

def tracePackets (records : List Record) : List Packet :=
  ⟨sequenceId, .sequenceStart⟩ :: SeriesTable.empty.allPackets (records.flatMap Record.timedMarks)

end SchedTelemetry
