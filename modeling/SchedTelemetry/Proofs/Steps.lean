import SchedTelemetry.Collector.System

set_option autoImplicit false

namespace SchedTelemetry

namespace Worker

inductive Polls (w : Worker) : Worker → Prop where
  | idled (polls : w.script.polls = []) : Polls w { w.beginPoll [] with stage := .waiting }
  | received {raws : List (List UInt8)} {rest : List Poll}
      (polls : w.script.polls = .delivered raws :: rest) :
      Polls w { w.beginPoll rest with stage := .delivering raws }
  | interrupted {rest : List Poll} (polls : w.script.polls = .interrupted :: rest) :
      Polls w { w.beginPoll rest with interrupted := w.interrupted + 1 }
  | failed {cause : String} {rest : List Poll} (polls : w.script.polls = .failed cause :: rest) :
      Polls w ((w.beginPoll rest).fail (.pollFailed w.channel cause))
  | panicked {rest : List Poll} (polls : w.script.polls = .panicked :: rest) :
      Polls w (w.beginPoll rest).panic

theorem polls_poll (w : Worker) : w.Polls w.poll := by
  simp only [poll]
  split
  next polls => exact .idled polls
  next polls => exact .received polls
  next polls => exact .interrupted polls
  next polls => exact .failed polls
  next polls => exact .panicked polls

inductive Advances (w : Worker) (raised : Bool) : Worker → Prop where
  | unopened {cause : String} (stage : w.stage = .opening)
      (failure : w.script.openFailure = some cause) :
      Advances w raised (w.fail (.openFailed w.channel cause))
  | opened (stage : w.stage = .opening) (opens : w.script.openFailure = none) :
      Advances w raised { w with stage := .polling }
  | told (stage : w.stage = .polling) (flag : raised = true) : Advances w raised w.finish
  | polled (stage : w.stage = .polling) (flag : raised = false) : Advances w raised w.poll
  | emptied (stage : w.stage = .delivering []) : Advances w raised { w with stage := .polling }
  | consumed {raw : List UInt8} {rest : List (List UInt8)}
      (stage : w.stage = .delivering (raw :: rest)) :
      Advances w raised { w.consume raw with stage := .delivering rest }
  | woken (stage : w.stage = .waiting) (flag : raised = true) : Advances w raised w.finish

theorem advances_of_advance? {raised : Bool} {w w' : Worker} (advanced : w.advance? raised = some w') :
    w.Advances raised w' := by
  simp only [advance?] at advanced
  split at advanced
  next stage =>
    split at advanced
    next failure =>
      cases advanced
      exact .unopened stage failure
    next opens =>
      cases advanced
      exact .opened stage opens
  next stage =>
    cases advanced
    split
    next flag => exact .told stage flag
    next flag => exact .polled stage (Bool.eq_false_iff.mpr flag)
  next stage =>
    cases advanced
    exact .emptied stage
  next stage =>
    cases advanced
    exact .consumed stage
  next stage =>
    split at advanced
    next flag =>
      cases advanced
      exact .woken stage flag
    next => cases advanced
  next => cases advanced
  next => cases advanced

theorem step?_eq_none {raised : Bool} {w : Worker} (stuck : w.step? raised = none) :
    w.isGone = true ∨ (w.isWaiting = true ∧ raised = false) := by
  simp only [step?] at stuck
  split at stuck
  next => cases stuck
  next outbox =>
    rw [Option.map_eq_none_iff] at stuck
    simp only [advance?] at stuck
    split at stuck
    next => split at stuck <;> cases stuck
    next => cases stuck
    next => cases stuck
    next => cases stuck
    next stage =>
      split at stuck
      next => cases stuck
      next not_raised =>
        right
        exact ⟨by simp [isWaiting, outbox, stage], Bool.eq_false_iff.mpr not_raised⟩
    next stage => exact Or.inl (by simp [isGone, outbox, stage])
    next stage => exact Or.inl (by simp [isGone, outbox, stage])

end Worker

inductive WriterThread.Steps : WriterThread → WriterThread → Prop where
  | received {w : TraceWriter} {b : Batch} {queue : List Batch} :
      Steps (.running w [] (b :: queue)) (.running w b queue)
  | wrote {w v : TraceWriter} {r : Record} {inHand : List Record} {queue : List Batch}
      (done : w.write r = .done v) :
      Steps (.running w (r :: inHand) queue) (.running v inHand queue)
  | failed {w v : TraceWriter} {e : WriteError} {r : Record} {inHand : List Record}
      {queue : List Batch} (refused : w.write r = ⟨v, some e⟩) :
      Steps (.running w (r :: inHand) queue) (.ended ⟨v, some e⟩)

theorem WriterThread.steps_of_step? {t t' : WriterThread} (stepped : t.step? = some t') :
    t.Steps t' := by
  simp only [step?] at stepped
  split at stepped
  next =>
    split at stepped
    next done =>
      cases stepped
      exact .wrote done
    next w r inHand queue attempt not_done =>
      cases stepped
      cases refused : w.write r with
      | mk v failure =>
        cases failure with
        | none => exact absurd refused (not_done v)
        | some e => exact .failed refused
  next =>
    cases stepped
    exact .received
  next => cases stepped
  next => cases stepped

theorem WriterThread.step?_running_eq_none {w : TraceWriter} {inHand : List Record}
    {queue : List Batch} : (running w inHand queue).step? = none ↔ inHand = [] ∧ queue = [] := by
  cases inHand with
  | nil => cases queue <;> simp [step?]
  | cons r rest =>
    simp only [step?]
    split <;> simp

namespace System

theorem step_of_stuck {s : System} {c : Channel} (stuck : s.work? c = none) : s.step (.work c) = s := by
  simp [step, stuck]

theorem step_of_worked {s s' : System} {c : Channel} (worked : s.work? c = some s') :
    s.step (.work c) = s' := by
  simp [step, worked]

theorem step_of_write?_none {s : System} (stuck : s.write? = none) : s.step .write = s := by
  simp [step, stuck]

theorem step_of_write? {s s' : System} (written : s.write? = some s') : s.step .write = s' := by
  simp [step, written]

inductive Works (s : System) (c : Channel) : System → Prop where
  | advanced {w w' : Worker} (here : s.workers.get c = some w)
      (stepped : w.step? s.raised = some (w', none)) : Works s c (s.setWorker c w')
  | sent {w w' : Worker} {b : Batch} {t : TraceWriter} {inHand : List Record} {queue : List Batch}
      (here : s.workers.get c = some w) (stepped : w.step? s.raised = some (w', some b))
      (running : s.writer = .running t inHand queue)
      (room : queue.length < WriterThread.queueDepth) :
      Works s c ((s.setWorker c w').sends c b (.running t inHand (queue ++ [b])))
  | dropped {w w' : Worker} {b : Batch} {trace : Attempt TraceWriter}
      (here : s.workers.get c = some w) (stepped : w.step? s.raised = some (w', some b))
      (ended : s.writer = .ended trace) :
      Works s c ((s.setWorker c (w'.say [.recordsDropped])).loses c b)

theorem works_of_work? {s s' : System} {c : Channel} (worked : s.work? c = some s') :
    s.Works c s' := by
  simp only [work?] at worked
  split at worked
  next => cases worked
  next w here =>
    split at worked
    next => cases worked
    next stepped =>
      cases worked
      exact .advanced here stepped
    next w' b stepped =>
      cases writer : s.writer with
      | running t inHand queue =>
        simp only [writer, WriterThread.offer] at worked
        by_cases room : queue.length < WriterThread.queueDepth
        · simp only [room, if_true] at worked
          cases worked
          exact .sent here stepped writer room
        · simp only [room, if_false] at worked
          cases worked
      | ended trace =>
        simp only [writer, WriterThread.offer] at worked
        cases worked
        exact .dropped here stepped writer

end System

@[simp] def CoordinatorStage.closed : CoordinatorStage → Bool
  | .finished _ => true
  | _ => false

namespace System

def Waits (s : System) : Prop :=
  match s.stage with
  | .abandoning _ _ => s.allGone = false
  | .watching => s.raised = false ∧ s.allGone = false
  | .joining => s.allGone = false
  | .finished _ => True
  | _ => False

inductive Moves (s : System) : System → Prop where
  | denied {built rest : List Channel} {c : Channel} {cause : String}
      (stage : s.stage = .acquiring built (c :: rest))
      (unavailable : (s.plan.scripts.get c).unavailable = some cause) :
      Moves s { s with stage := .detaching (.error (.channelUnavailable c cause)) }
  | acquired {built rest : List Channel} {c : Channel}
      (stage : s.stage = .acquiring built (c :: rest))
      (available : (s.plan.scripts.get c).unavailable = none) :
      Moves s { s with stage := .acquiring (built ++ [c]) rest }
  | gathered {built : List Channel} (stage : s.stage = .acquiring built []) :
      Moves s { s with stage := .starting built }
  | unstarted {rest : List Channel} {c : Channel} {cause : String}
      (stage : s.stage = .starting (c :: rest))
      (failure : (s.plan.scripts.get c).startFailure = some cause) :
      Moves s { s with raised := true, stage := .abandoning (.workerNotStarted c cause) rest }
  | started {rest : List Channel} {c : Channel} (stage : s.stage = .starting (c :: rest))
      (starts : (s.plan.scripts.get c).startFailure = none) :
      Moves s { s.startWorker c with stage := .starting rest }
  | complete (stage : s.stage = .starting []) : Moves s { s with stage := .watching }
  | abandoned {e : CollectError} {unstarted : List Channel} (stage : s.stage = .abandoning e unstarted)
      (all_gone : s.allGone = true) : Moves s { s.join with stage := .detaching (.error e) }
  | stopped (stage : s.stage = .watching) (done : s.raised = true ∨ s.allGone = true) :
      Moves s { s with raised := true, stage := .joining }
  | joined (stage : s.stage = .joining) (all_gone : s.allGone = true) :
      Moves s { s.join with stage := .detaching (.ok s.reports) }
  | detached {outcome : Except CollectError (List WorkerReport)} (stage : s.stage = .detaching outcome) :
      Moves s { s with bindingDrops := s.bindingDrops + 1, stage := .stopping outcome }
  | closed {outcome : Except CollectError (List WorkerReport)} (stage : s.stage = .stopping outcome) :
      Moves s (s.stopSession outcome)
  | waited (waits : s.Waits) : Moves s s

theorem moves_coordinate (s : System) : s.Moves s.coordinate := by
  simp only [coordinate]
  split
  next stage =>
    split
    next unavailable => exact .denied stage unavailable
    next available => exact .acquired stage available
  next stage => exact .gathered stage
  next stage =>
    split
    next failure => exact .unstarted stage failure
    next starts => exact .started stage starts
  next stage => exact .complete stage
  next stage =>
    split
    next all_gone => exact .abandoned stage all_gone
    next going => exact .waited (by simpa [Waits, stage] using going)
  next stage =>
    split
    next done => exact .stopped stage (Bool.or_eq_true_iff.mp done)
    next going => exact .waited (by simpa [Waits, stage] using going)
  next stage =>
    split
    next all_gone => exact .joined stage all_gone
    next going => exact .waited (by simpa [Waits, stage] using going)
  next stage => exact .detached stage
  next stage => exact .closed stage
  next stage => exact .waited (by simp [Waits, stage])

end System

end SchedTelemetry
