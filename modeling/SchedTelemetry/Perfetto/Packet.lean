import SchedTelemetry.Perfetto.Wire

set_option autoImplicit false

namespace SchedTelemetry.Perfetto

inductive AnnotationValue where
  | int (n : Int64)
  | text (s : String)
  | pointer (address : UInt64)
  deriving DecidableEq

structure Annotation where
  name : String
  value : AnnotationValue
  deriving DecidableEq

structure TrackDescriptor where
  uuid : UInt64
  name : String
  isCounter : Bool
  deriving DecidableEq

inductive EventKind where
  | sliceBegin (name : String)
  | sliceEnd
  | instant (name : String)
  | counter (value : Int64)
  deriving DecidableEq

structure TrackEvent where
  track : UInt64
  kind : EventKind
  annotations : List Annotation
  deriving DecidableEq

inductive Content where
  | sequenceStart
  | descriptor (d : TrackDescriptor)
  | event (ts : UInt64) (e : TrackEvent)
  deriving DecidableEq

structure Packet where
  sequence : UInt32
  content : Content
  deriving DecidableEq

-- A field that is set is written even when it is zero or empty.
def Annotation.fields (a : Annotation) : List Field :=
  [.text 10 a.name,
    match a.value with
    | .int n => .int 4 n
    | .text s => .text 6 s
    | .pointer address => .uint 7 address.toNat]

def counterFields : List Field :=
  -- Unit 2 counts things. The values are not increments.
  [.uint 3 2, .uint 5 0]

def TrackDescriptor.fields (d : TrackDescriptor) : List Field :=
  [.uint 1 d.uuid.toNat] ++ (if d.isCounter then [.message 8 counterFields] else [])
    ++ [.text 2 d.name]

def EventKind.code : EventKind → Nat
  | .sliceBegin _ => 1
  | .sliceEnd => 2
  | .instant _ => 3
  | .counter _ => 4

def EventKind.payload : EventKind → List Field
  | .sliceBegin name => [.text 23 name]
  | .sliceEnd => []
  | .instant name => [.text 23 name]
  | .counter value => [.int 30 value]

def TrackEvent.fields (e : TrackEvent) : List Field :=
  [.uint 9 e.kind.code, .uint 11 e.track.toNat]
    ++ e.annotations.map (fun a => .message 4 a.fields) ++ e.kind.payload

def monotonicClock : Nat := 3

def Content.fields : Content → List Field
  | .sequenceStart => [.uint 13 1]
  | .descriptor d => [.message 60 d.fields]
  | .event ts e =>
    [.uint 8 ts.toNat, .uint 58 monotonicClock, .message 11 e.fields]

def Packet.fields (p : Packet) : List Field :=
  p.content.fields ++ [.uint 10 p.sequence.toNat]

def Packet.encode (p : Packet) : List UInt8 :=
  Field.encodeAll p.fields

-- Traces of one packet each, put one after the other, are one trace.
def Packet.entry (p : Packet) : Field :=
  .message 1 p.fields

def Packet.chunks (p : Packet) : List (List UInt8) :=
  stage [] p.entry.pieces

theorem Packet.flatten_chunks (p : Packet) : p.chunks.flatten = p.entry.encode := by
  simp [chunks, flatten_stage, Field.flatten_pieces]

end SchedTelemetry.Perfetto
