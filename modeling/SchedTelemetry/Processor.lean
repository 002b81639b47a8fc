import SchedTelemetry.Emission
import SchedTelemetry.Notice

set_option autoImplicit false

namespace SchedTelemetry

structure Output where
  records : List Record
  notices : List Notice
  deriving Inhabited

structure Processor where
  channel : Channel
  setup : Setup
  tally : Tally
  phases : Phases

namespace Processor

def fresh (channel : Channel) (setup : Setup) : Processor :=
  ⟨channel, setup, .zero, .empty⟩

def misfitNotices (e : LoadBalance) : List Notice :=
  if e.misfitTaskLoad.isSome && (cpuNumber? e.lbCpu).isNone then [.misfitOnInvalidCpu e.lbCpu] else []

def exitNotices (found : PhaseState) (e : LoadBalance) : List Notice :=
  if !e.entry && found = .closed then [.exitWithoutEntry e.key] else []

def handleLoadBalance (p : Processor) (e : LoadBalance) : Processor × List Notice :=
  -- Whether an exit had an entry is judged before the exit itself closes the phase.
  if p.setup.switches.isOn .loadBalance then
    let (found, phases) := p.phases.step e
    ({ p with phases }, misfitNotices e ++ exitNotices found e)
  else (p, [])

def rqPeltNotices (e : RqPelt) : List Notice :=
  match e.peltClass with
  | .unknown tag => [.unexpectedPelt tag e.cpu]
  | _ => []

def note (p : Processor) : Event → Processor × List Notice
  | .rqPelt e => (p, rqPeltNotices e)
  | .loadBalance e => p.handleLoadBalance e
  | _ => (p, [])

def handle (p : Processor) (e : Event) : Processor × Output :=
  let (after, notices) := p.note e
  (after, ⟨e.records p.setup, notices⟩)

def countDecoded (p : Processor) : Processor :=
  { p with tally := { p.tally with decoded := p.tally.decoded + 1 } }

def countMalformed (p : Processor) : Processor :=
  { p with tally := { p.tally with malformed := p.tally.malformed + 1 } }

def consume (p : Processor) (raw : List UInt8) : Processor × Output :=
  match Event.decode p.channel raw with
  | .ok e => p.countDecoded.handle e
  -- A record that does not decode is counted and skipped.
  | .error cause => (p.countMalformed, ⟨[], [.skipped cause]⟩)

def noticeOrder (a b : Notice) : Bool := decide (a.message ≤ b.message)

def stillOpenNotices (p : Processor) : List Notice :=
  (p.phases.opened.map (fun entry => Notice.stillOpen entry.1 entry.2)).mergeSort noticeOrder

def closingNotices (p : Processor) : List Notice :=
  p.stillOpenNotices ++ [.channelDone p.channel p.tally]

inductive Request where
  | consume (raw : List UInt8)
  | finish
  deriving DecidableEq

structure Reply where
  output : Output
  tally? : Option Tally

def serve (p : Processor) : Request → Processor × Reply
  | .consume raw => ((p.consume raw).1, ⟨(p.consume raw).2, none⟩)
  -- Only a finish is answered with the tally. More records may come after it.
  | .finish => (p, ⟨⟨[], p.closingNotices⟩, some p.tally⟩)

end Processor

end SchedTelemetry
