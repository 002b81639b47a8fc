import SchedTelemetry.Processor
import SchedTelemetry.Session

set_option autoImplicit false

namespace SchedTelemetry

inductive Poll where
  | delivered (raws : List (List UInt8))
  | interrupted
  | failed (cause : String)
  | panicked
  deriving DecidableEq

/-- How a channel behaves: what fails before it can be polled, and then its polls in order. When these
are used up the channel is idle, and a poll lasts until the collection is told to stop. -/
structure ChannelScript where
  unavailable : Option String
  startFailure : Option String
  openFailure : Option String
  polls : List Poll
  deriving DecidableEq

def ChannelScript.idle : ChannelScript := ⟨none, none, none, []⟩

instance : Inhabited ChannelScript := ⟨.idle⟩

inductive WorkerStage where
  | opening
  | polling
  | delivering (raws : List (List UInt8))
  | waiting
  | ended
  | panicked
  deriving DecidableEq

structure Worker where
  channel : Channel
  script : ChannelScript
  stage : WorkerStage
  processor : Processor
  recorder : Recorder
  polls : Nat
  interrupted : Nat
  failed : Bool
  outbox : List Batch
  notices : List Notice

namespace Worker

def fresh (channel : Channel) (script : ChannelScript) (setup : Setup) (batchSize : Nat) : Worker where
  channel := channel
  script := script
  stage := .opening
  processor := .fresh channel setup
  recorder := .fresh batchSize
  polls := 0
  interrupted := 0
  failed := false
  outbox := []
  notices := []

def say (w : Worker) (ns : List Notice) : Worker :=
  { w with notices := w.notices ++ ns }

def flush (w : Worker) : Worker :=
  { w with recorder := w.recorder.flush.1, outbox := w.outbox ++ w.recorder.flush.2 }

def finish (w : Worker) : Worker :=
  ({ w.flush with stage := .ended } : Worker).say
    (w.processor.closingNotices
      ++ [.workerDone w.channel w.polls w.interrupted w.processor.tally])

def panic (w : Worker) : Worker :=
  -- The handler is dropped without being closed, and its records are handed over all the same.
  { w.flush with stage := .panicked }

def fail (w : Worker) (n : Notice) : Worker :=
  (({ w with failed := true } : Worker).say [n]).finish

def consume (w : Worker) (raw : List UInt8) : Worker :=
  let (processor, output) := w.processor.consume raw
  let (recorder, batches) := w.recorder.emitAll output.records
  ({ w with processor, recorder, outbox := w.outbox ++ batches } : Worker).say output.notices

def beginPoll (w : Worker) (rest : List Poll) : Worker :=
  { w with polls := w.polls + 1, script := { w.script with polls := rest } }

def poll (w : Worker) : Worker :=
  match w.script.polls with
  | [] => { w.beginPoll [] with stage := .waiting }
  | .delivered raws :: rest => { w.beginPoll rest with stage := .delivering raws }
  | .interrupted :: rest => { w.beginPoll rest with interrupted := w.interrupted + 1 }
  | .failed cause :: rest => (w.beginPoll rest).fail (.pollFailed w.channel cause)
  | .panicked :: rest => (w.beginPoll rest).panic

def advance? (raised : Bool) (w : Worker) : Option Worker :=
  match w.stage with
  | .opening =>
    match w.script.openFailure with
    | some cause => some (w.fail (.openFailed w.channel cause))
    | none => some { w with stage := .polling }
  | .polling => some (if raised then w.finish else w.poll)
  | .delivering [] => some { w with stage := .polling }
  | .delivering (raw :: rest) => some { w.consume raw with stage := .delivering rest }
  -- A waiting poll ends when the flag goes up, and the loop with it.
  | .waiting => if raised then some w.finish else none
  | .ended => none
  | .panicked => none

-- One step: a batch is handed over, or else the worker advances.
def step? (raised : Bool) (w : Worker) : Option (Worker × Option Batch) :=
  match w.outbox with
  | batch :: rest => some ({ w with outbox := rest }, some batch)
  | [] => (w.advance? raised).map (fun w => (w, none))

def isGone (w : Worker) : Bool :=
  w.outbox.isEmpty && (w.stage = .ended || w.stage = .panicked)

def isWaiting (w : Worker) : Bool :=
  w.outbox.isEmpty && w.stage = .waiting

def stagesLeft (w : Worker) : Nat :=
  match w.stage with
  | .opening => 3 * w.script.polls.length + 4
  | .polling => 3 * w.script.polls.length + 3
  | .delivering _ => 3 * w.script.polls.length + 4
  | .waiting => 2
  | .ended => 0
  | .panicked => 0

def deliveriesLeft (w : Worker) : Nat :=
  match w.stage with
  | .delivering raws => raws.length
  | _ => 0

theorem step?_decreases {raised : Bool} {w w' : Worker} {batch? : Option Batch}
    (h : w.step? raised = some (w', batch?)) :
    Prod.Lex (· < ·) (Prod.Lex (· < ·) (· < ·))
      (w'.stagesLeft, w'.deliveriesLeft, w'.outbox.length)
      (w.stagesLeft, w.deliveriesLeft, w.outbox.length) := by
  unfold step? at h
  split at h
  next batch rest hout =>
    simp only [Option.some.injEq, Prod.mk.injEq] at h
    obtain ⟨rfl, -⟩ := h
    have : Prod.Lex (· < ·) (· < ·) (w.deliveriesLeft, rest.length)
        (w.deliveriesLeft, w.outbox.length) := by
      simp [Prod.lex_def, hout]
    exact Prod.Lex.right _ this
  next hout =>
    simp only [Option.map_eq_some_iff, Prod.mk.injEq] at h
    obtain ⟨v, hv, rfl, -⟩ := h
    unfold advance? at hv
    split at hv
    next hs =>
      split at hv
      next cause hc =>
        cases hv
        exact Prod.Lex.left _ _ (by simp [stagesLeft, hs, fail, finish, say])
      next =>
        cases hv
        exact Prod.Lex.left _ _ (by simp [stagesLeft, hs])
    next hs =>
      cases hv
      refine Prod.Lex.left _ _ ?_
      split
      · simp [stagesLeft, hs, finish, say]
      · unfold poll
        split
        next hp => simp [stagesLeft, hs, hp]
        next raws rest hp => simp [stagesLeft, hs, hp, beginPoll]; omega
        next rest hp => simp [stagesLeft, hs, hp, beginPoll]
        next cause rest hp => simp [stagesLeft, hs, hp, fail, finish, say]
        next rest hp => simp [stagesLeft, hs, hp, panic]
    next hs =>
      cases hv
      exact Prod.Lex.left _ _ (by simp [stagesLeft, hs])
    next raw rest hs =>
      cases hv
      have : Prod.Lex (· < ·) (· < ·) (rest.length, (w.consume raw).outbox.length)
          ((raw :: rest).length, w.outbox.length) := by
        simp [Prod.lex_def]
      simpa [stagesLeft, deliveriesLeft, hs, consume, say] using Prod.Lex.right _ this
    next hs =>
      split at hv
      next =>
        cases hv
        exact Prod.Lex.left _ _ (by simp [stagesLeft, hs, finish, say])
      next => simp at hv
    next => simp at hv
    next => simp at hv

end Worker

end SchedTelemetry
