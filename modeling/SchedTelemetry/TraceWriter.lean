import SchedTelemetry.Record.Json
import SchedTelemetry.Series
import SchedTelemetry.Sink
import SchedTelemetry.TraceFormat

set_option autoImplicit false

namespace SchedTelemetry

-- A failed write leaves the writer usable, with the pieces before the failure taken.
structure TraceWriter where
  out : BufferedSink
  count : Nat
  format : TraceFormat
  series : SeriesTable

namespace TraceWriter

def create (sink : Sink) (format : TraceFormat) : TraceWriter :=
  ⟨.onto sink, 0, format, .empty⟩

def put (w : TraceWriter) (pieces : List (List UInt8)) : Attempt TraceWriter :=
  (w.out.writeAll pieces).map (fun out => { w with out })

def putText (w : TraceWriter) (pieces : List (List Char)) : Attempt TraceWriter :=
  w.put (pieces.map Utf8.encodeChars)

def putPackets (w : TraceWriter) : List Perfetto.Packet → Attempt TraceWriter
  | [] => .done w
  | p :: rest => (w.put p.chunks).andThen (fun w => w.putPackets rest)

def jsonHead : List Char := ['[']

def jsonLead (count : Nat) : List Char :=
  if count = 0 then ['\n', ' ', ' ', ' ', ' '] else [',', '\n', ' ', ' ', ' ', ' ']

def jsonTail : List Char := ['\n', ']', '\n']

def start (w : TraceWriter) : Attempt TraceWriter :=
  match w.format with
  | .json => w.putText [jsonHead]
  | .perfetto => w.putPackets [⟨sequenceId, .sequenceStart⟩]

def putMark (w : TraceWriter) (ts : UInt64) (m : Mark) : Attempt TraceWriter :=
  -- A series is known from its first mark on, even when its descriptor cannot be written.
  { w with series := w.series.add m.series }.putPackets (w.series.packets ts m)

def putMarks (w : TraceWriter) (ts : UInt64) : List Mark → Attempt TraceWriter
  | [] => .done w
  | m :: rest => (w.putMark ts m).andThen (fun w => w.putMarks ts rest)

def putRecord (w : TraceWriter) (r : Record) : Attempt TraceWriter :=
  match w.format with
  | .json => w.putText (jsonLead w.count :: r.toJson.pieces)
  | .perfetto => w.putMarks r.ts r.observation.marks

def countOne (w : TraceWriter) : TraceWriter :=
  { w with count := w.count + 1 }

def write (w : TraceWriter) (r : Record) : Attempt TraceWriter :=
  (w.putRecord r).andThen (fun w => .done w.countOne)

def writeAll (w : TraceWriter) : List Record → Attempt TraceWriter
  | [] => .done w
  | r :: rest => (w.write r).andThen (fun w => w.writeAll rest)

def flush (w : TraceWriter) : Attempt TraceWriter :=
  w.out.flush.map (fun out => { w with out })

def close (w : TraceWriter) : Attempt TraceWriter :=
  match w.format with
  | .json => (w.putText [jsonTail]).andThen flush
  | .perfetto => w.flush

def release (w : TraceWriter) : Sink :=
  w.out.release

end TraceWriter

end SchedTelemetry
