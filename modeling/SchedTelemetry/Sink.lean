set_option autoImplicit false

namespace SchedTelemetry

inductive WriteError where
  | sinkFull
  deriving DecidableEq

def WriteError.message : WriteError → String
  | .sinkFull => "sink full"

structure Attempt (σ : Type) where
  state : σ
  failure : Option WriteError

namespace Attempt

variable {σ τ : Type}

def done (s : σ) : Attempt σ := ⟨s, none⟩

def andThen (a : Attempt σ) (f : σ → Attempt σ) : Attempt σ :=
  match a.failure with
  | none => f a.state
  | some _ => a

def map (f : σ → τ) (a : Attempt σ) : Attempt τ := ⟨f a.state, a.failure⟩

end Attempt

-- A sink takes a write whole or refuses it whole.
structure Sink where
  limit : Option Nat
  held : List UInt8
  deriving DecidableEq

namespace Sink

def unlimited : Sink := ⟨none, []⟩

def limited (n : Nat) : Sink := ⟨some n, []⟩

def fits (s : Sink) (size : Nat) : Bool :=
  match s.limit with
  | none => true
  | some n => s.held.length + size ≤ n

def write (s : Sink) (bytes : List UInt8) : Attempt Sink :=
  if s.fits bytes.length then .done { s with held := s.held ++ bytes } else ⟨s, some .sinkFull⟩

end Sink

/-- A sink with a buffer in front. The backlog holds the bytes taken and not yet handed on, last one
first. -/
structure BufferedSink where
  sink : Sink
  backlog : List UInt8
  size : Nat
  size_eq : size = backlog.length

namespace BufferedSink

def capacity : Nat := 65536

def onto (sink : Sink) : BufferedSink := ⟨sink, [], 0, rfl⟩

def pending (b : BufferedSink) : List UInt8 := b.backlog.reverse

def keep (b : BufferedSink) (bytes : List UInt8) : BufferedSink where
  sink := b.sink
  backlog := bytes.reverseAux b.backlog
  size := b.size + bytes.length
  size_eq := by
    rw [List.reverseAux_eq, List.length_append, List.length_reverse, b.size_eq, Nat.add_comm]

theorem pending_keep (b : BufferedSink) (bytes : List UInt8) :
    (b.keep bytes).pending = b.pending ++ bytes := by
  simp [keep, pending, List.reverseAux_eq]

theorem size_eq_length_pending (b : BufferedSink) : b.size = b.pending.length := by
  simp [pending, b.size_eq]

def flush (b : BufferedSink) : Attempt BufferedSink :=
  -- Without pending bytes the sink is not asked.
  if b.size = 0 then .done b
  else
    match b.sink.write b.pending with
    | ⟨sink, none⟩ => .done (.onto sink)
    | ⟨_, some e⟩ => ⟨b, some e⟩

-- Takes bytes for which room has been made: into the buffer, or past it when they would fill it.
def take (b : BufferedSink) (bytes : List UInt8) : Attempt BufferedSink :=
  if bytes.length < capacity then .done (b.keep bytes)
  else (b.sink.write bytes).map (fun sink => { b with sink })

def write (b : BufferedSink) (bytes : List UInt8) : Attempt BufferedSink :=
  -- An exact fit does not flush what is pending.
  if b.size + bytes.length ≤ capacity then b.take bytes
  else b.flush.andThen (fun flushed => flushed.take bytes)

def writeAll (b : BufferedSink) : List (List UInt8) → Attempt BufferedSink
  | [] => .done b
  | piece :: rest => (b.write piece).andThen (fun b => b.writeAll rest)

def release (b : BufferedSink) : Sink :=
  b.flush.state.sink

end BufferedSink

end SchedTelemetry
