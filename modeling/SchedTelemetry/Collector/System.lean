import SchedTelemetry.Collector.Worker
import SchedTelemetry.Collector.WriterThread

set_option autoImplicit false

namespace SchedTelemetry

inductive CollectError where
  | channelUnavailable (channel : Channel) (cause : String)
  | workerNotStarted (channel : Channel) (cause : String)
  deriving DecidableEq

def CollectError.message : CollectError → String
  | .channelUnavailable channel cause => "Failed to get the " ++ channel.name ++ " channel: " ++ cause
  | .workerNotStarted channel cause =>
    "Failed to start the " ++ channel.name ++ " worker: " ++ cause

structure WorkerReport where
  channel : Channel
  polls : Nat
  interrupted : Nat
  tally : Tally
  failed : Bool
  deriving DecidableEq

def Worker.report (w : Worker) : WorkerReport :=
  ⟨w.channel, w.polls, w.interrupted, w.processor.tally, w.failed⟩

structure CollectionReport where
  workers : List WorkerReport
  written : Nat
  deriving DecidableEq

def CollectionReport.decoded (r : CollectionReport) : Nat :=
  r.workers.foldl (fun n w => n + w.tally.decoded) 0

/-- Where the coordinator is. A channel that is built has a handler with a recorder, which lives until
its worker ends or the coordinator gives up on it. -/
inductive CoordinatorStage where
  | acquiring (built rest : List Channel)
  | starting (rest : List Channel)
  | abandoning (e : CollectError) (unstarted : List Channel)
  | watching
  | joining
  | detaching (outcome : Except CollectError (List WorkerReport))
  | stopping (outcome : Except CollectError (List WorkerReport))
  | finished (result : Except CollectError CollectionReport)

structure Plan where
  setup : Setup
  scripts : PerChannel ChannelScript

/-- The session is the one that the collection was begun with. Of the batches handed over since then, the
writer's queue took those in `sent`, and those in `lost` came when the writer had ended. -/
structure System where
  plan : Plan
  session : Session
  stage : CoordinatorStage
  workers : PerChannel (Option Worker)
  raised : Bool
  writer : WriterThread
  sent : List (Channel × Batch)
  lost : List (Channel × Batch)
  bindingDrops : Nat
  sink : Option Sink
  notices : List Notice

-- Coordinator, workers and writer are independent: a run is any sequence of their steps.
inductive Action where
  | coordinate
  | work (c : Channel)
  | write
  | raise
  deriving DecidableEq

namespace System

def initial (plan : Plan) (session : Session) (raised : Bool) : System where
  plan := plan
  session := session
  stage := .acquiring [] Channel.all
  workers := .ofFn (fun _ => none)
  raised := raised
  writer := .running session.writer [] (session.sent.map (·.2))
  sent := []
  lost := []
  bindingDrops := 0
  sink := none
  notices := []

def say (s : System) (n : Notice) : System :=
  { s with notices := s.notices ++ [n] }

def allGone (s : System) : Bool :=
  Channel.all.all (fun c => (s.workers.get c).all (·.isGone))

def reportOf? (s : System) (c : Channel) : Option WorkerReport :=
  (s.workers.get c).bind (fun w => if w.stage = .ended then some w.report else none)

def reports (s : System) : List WorkerReport :=
  Channel.all.filterMap s.reportOf?

def panicNotices (s : System) : List Notice :=
  Channel.all.filterMap (fun c =>
    (s.workers.get c).bind (fun w => if w.stage = .panicked then some (.workerPanicked c) else none))

def join (s : System) : System :=
  -- A worker that panicked leaves a notice in place of a report.
  { s with notices := s.notices ++ s.panicNotices }

def startWorker (s : System) (c : Channel) : System :=
  { s with
    workers := s.workers.set c
      (some (.fresh c (s.plan.scripts.get c) s.plan.setup s.session.batchSize)) }

-- Waits for the writer, which goes on alone to the end of what it has got, unless it has failed.
def stopSession (s : System) (outcome : Except CollectError (List WorkerReport)) : System :=
  let stopped : Session.Stopped := .of s.writer.finish
  let s := { s with writer := .ended s.writer.finish, sink := some stopped.sink }
  match outcome, stopped.result with
  | .ok workers, .ok n => { s.say (.traceWritten n) with stage := .finished (.ok ⟨workers, n⟩) }
  -- A trace that could not be written counts no records.
  | .ok workers, .error e =>
    { s.say (.traceWriteFailed e.message) with stage := .finished (.ok ⟨workers, 0⟩) }
  -- After an earlier error that error stands.
  | .error ce, .ok n => { s.say (.traceWritten n) with stage := .finished (.error ce) }
  | .error ce, .error e =>
    { s.say (.traceCloseFailed e.message) with stage := .finished (.error ce) }

def coordinate (s : System) : System :=
  match s.stage with
  | .acquiring built (c :: rest) =>
    match (s.plan.scripts.get c).unavailable with
    | some cause => { s with stage := .detaching (.error (.channelUnavailable c cause)) }
    | none => { s with stage := .acquiring (built ++ [c]) rest }
  | .acquiring built [] => { s with stage := .starting built }
  | .starting (c :: rest) =>
    match (s.plan.scripts.get c).startFailure with
    | some cause =>
      -- Workers that run already end only once the flag is up.
      { s with raised := true, stage := .abandoning (.workerNotStarted c cause) rest }
    | none => { s.startWorker c with stage := .starting rest }
  | .starting [] => { s with stage := .watching }
  | .abandoning e _ => if s.allGone then { s.join with stage := .detaching (.error e) } else s
  | .watching =>
    if s.raised || s.allGone then { s with raised := true, stage := .joining } else s
  | .joining => if s.allGone then { s.join with stage := .detaching (.ok s.reports) } else s
  | .detaching outcome =>
    { s with bindingDrops := s.bindingDrops + 1, stage := .stopping outcome }
  | .stopping outcome => s.stopSession outcome
  | .finished _ => s

def setWorker (s : System) (c : Channel) (w : Worker) : System :=
  { s with workers := s.workers.set c (some w) }

def sends (s : System) (c : Channel) (b : Batch) (writer : WriterThread) : System :=
  { s with writer, sent := s.sent ++ [(c, b)] }

def loses (s : System) (c : Channel) (b : Batch) : System :=
  { s with lost := s.lost ++ [(c, b)] }

/-- The worker of a channel takes a step, if it can. One with a batch to hand over waits while the queue
is full, and drops the batch when there is no writer any more. -/
def work? (s : System) (c : Channel) : Option System :=
  match s.workers.get c with
  | none => none
  | some w =>
    match w.step? s.raised with
    | none => none
    | some (w', none) => some (s.setWorker c w')
    | some (w', some b) =>
      match s.writer.offer b with
      | .taken writer => some ((s.setWorker c w').sends c b writer)
      | .full => none
      | .gone => some ((s.setWorker c (w'.say [.recordsDropped])).loses c b)

def write? (s : System) : Option System :=
  s.writer.step?.map (fun writer => { s with writer })

def step (s : System) : Action → System
  | .coordinate => s.coordinate
  | .work c => (s.work? c).getD s
  | .write => s.write?.getD s
  | .raise => { s with raised := true }

def run (s : System) (actions : List Action) : System :=
  actions.foldl step s

def recorderAlive (s : System) (c : Channel) : Bool :=
  match s.workers.get c with
  | some w => !w.isGone
  | none =>
    match s.stage with
    | .acquiring built _ => built.contains c
    | .starting rest => rest.contains c
    | .abandoning _ unstarted => unstarted.contains c
    | _ => false

def isQuiet (s : System) : Bool :=
  Channel.all.all (fun c =>
    match s.workers.get c with
    | none => false
    | some w => w.isGone || w.isWaiting)

def someWaiting (s : System) : Bool :=
  Channel.all.any (fun c => (s.workers.get c).any (·.isWaiting))

end System

end SchedTelemetry
