import SchedTelemetry.TraceWriter

set_option autoImplicit false

namespace SchedTelemetry

abbrev Batch := List Record

structure Recorder where
  batchSize : Nat
  pending : Batch

namespace Recorder

def fresh (batchSize : Nat) : Recorder := ⟨batchSize, []⟩

def flush (r : Recorder) : Recorder × List Batch :=
  if r.pending.isEmpty then (r, []) else ({ r with pending := [] }, [r.pending])

def emit (r : Recorder) (x : Record) : Recorder × List Batch :=
  let r := { r with pending := r.pending ++ [x] }
  if r.batchSize ≤ r.pending.length then r.flush else (r, [])

def emitAll (r : Recorder) : List Record → Recorder × List Batch
  | [] => (r, [])
  | x :: rest =>
    let (r, first) := r.emit x
    let (r, more) := r.emitAll rest
    (r, first ++ more)

end Recorder

def Record.cpuCounter (ts : UInt64) (cpu : UInt32) (signal : CpuSignal) (value : UInt64) : Record :=
  ⟨ts, .counter (.cpu cpu signal) value.toInt64⟩

def Record.taskCounter (ts : UInt64) (name : String) (pid : Int32) (signal : TaskSignal)
    (value : UInt64) : Record :=
  ⟨ts, .counter (.task name pid signal) value.toInt64⟩

inductive SessionStep where
  | recorder
  | emit (i : Nat) (x : Record)
  | cpuCounter (i : Nat) (ts : UInt64) (cpu : UInt32) (signal : CpuSignal) (value : UInt64)
  | taskCounter (i : Nat) (ts : UInt64) (name : String) (pid : Int32) (signal : TaskSignal)
      (value : UInt64)
  | flush (i : Nat)
  | drop (i : Nat)

/-- A dropped recorder leaves its place empty. `sent` holds the batches in the order of handing over,
each under the number of its recorder. -/
structure Session where
  writer : TraceWriter
  batchSize : Nat
  recorders : List (Option Recorder)
  sent : List (Nat × Batch)

namespace Session

def start (writer : TraceWriter) (batchSize : Nat) : Except WriteError Session :=
  match writer.start with
  -- A batch size of zero counts as one.
  | ⟨w, none⟩ => .ok ⟨w, max batchSize 1, [], []⟩
  | ⟨_, some e⟩ => .error e

def startMessage (e : WriteError) : String :=
  "Failed to write trace header: " ++ e.message

def recorder? (s : Session) (i : Nat) : Option Recorder :=
  (s.recorders[i]?).join

def handOver (s : Session) (i : Nat) (r? : Option Recorder) (batches : List Batch) : Session :=
  { s with recorders := s.recorders.set i r?, sent := s.sent ++ batches.map (fun b => (i, b)) }

def record (s : Session) (i : Nat) (x : Record) : Session :=
  match s.recorder? i with
  | none => s
  | some r => s.handOver i (some (r.emit x).1) (r.emit x).2

def flush (s : Session) (i : Nat) : Session :=
  match s.recorder? i with
  | none => s
  | some r => s.handOver i (some r.flush.1) r.flush.2

def drop (s : Session) (i : Nat) : Session :=
  match s.recorder? i with
  | none => s
  | some r => s.handOver i none r.flush.2

def step (s : Session) : SessionStep → Session
  | .recorder => { s with recorders := s.recorders ++ [some (.fresh s.batchSize)] }
  | .emit i x => s.record i x
  | .cpuCounter i ts cpu signal value => s.record i (.cpuCounter ts cpu signal value)
  | .taskCounter i ts name pid signal value => s.record i (.taskCounter ts name pid signal value)
  | .flush i => s.flush i
  | .drop i => s.drop i

def run (s : Session) (steps : List SessionStep) : Session :=
  steps.foldl step s

def dropAll (s : Session) : Session :=
  (List.range s.recorders.length).foldl drop s

def drain (w : TraceWriter) : List Batch → Attempt TraceWriter
  | [] => w.close
  | b :: rest => (w.writeAll b).andThen (fun w => drain w rest)

structure Stopped where
  result : Except WriteError Nat
  sink : Sink

def Stopped.of (trace : Attempt TraceWriter) : Stopped where
  result :=
    match trace.failure with
    | none => .ok trace.state.count
    | some e => .error e
  sink := trace.state.release

def stop (s : Session) : Stopped :=
  .of (drain s.writer (s.sent.map (·.2)))

end Session

end SchedTelemetry
