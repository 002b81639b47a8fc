import SchedTelemetry.Proofs.Delivery

set_option autoImplicit false

namespace SchedTelemetry

namespace Poll

def isFailure : Poll → Bool
  | .failed _ => true
  | _ => false

def isLast (p : Poll) : Bool := p.isFailure || p = .panicked

end Poll

def taken : List Poll → List Poll
  | [] => []
  | p :: rest => if p.isLast then [p] else p :: taken rest

namespace ChannelScript

def polled (script : ChannelScript) : List Poll :=
  match script.openFailure with
  | some _ => []
  | none => taken script.polls

def idles (script : ChannelScript) : Bool :=
  script.openFailure.isNone && !script.polled.any Poll.isLast

/-- What the worker of a channel reports, unless it panics. -/
def report? (c : Channel) (script : ChannelScript) : Option WorkerReport :=
  if .panicked ∈ script.polled then none
  else
    some
      { channel := c
        polls := script.polled.length + if script.idles then 1 else 0
        interrupted := script.polled.count .interrupted
        tally := .of c script.raws
        failed := script.openFailure.isSome || script.polled.any Poll.isFailure }

theorem report?_some {c : Channel} {script : ChannelScript} {r : WorkerReport}
    (reported : script.report? c = some r) : r.channel = c ∧ r.tally = .of c script.raws := by
  simp only [report?] at reported
  split at reported
  next => cases reported
  next =>
    cases reported
    exact ⟨rfl, rfl⟩

end ChannelScript

def predict (c : Channel) (r : WorkerReport) : List Poll → Option WorkerReport
  | [] => some { r with polls := r.polls + 1 }
  | .delivered raws :: rest =>
    predict c { r with polls := r.polls + 1, tally := r.tally.plus (.of c raws) } rest
  | .interrupted :: rest =>
    predict c { r with polls := r.polls + 1, interrupted := r.interrupted + 1 } rest
  | .failed _ :: _ => some { r with polls := r.polls + 1, failed := true }
  | .panicked :: _ => none

theorem predict_eq (c : Channel) (r : WorkerReport) (polls : List Poll) :
    predict c r polls =
      if .panicked ∈ taken polls then none
      else
        some
          { channel := r.channel
            polls := r.polls + ((taken polls).length + if !(taken polls).any Poll.isLast then 1 else 0)
            interrupted := r.interrupted + (taken polls).count .interrupted
            tally := r.tally.plus (.of c (delivered polls))
            failed := r.failed || (taken polls).any Poll.isFailure } := by
  induction polls generalizing r with
  | nil => simp [predict, taken, delivered, Tally.plus_of_nil]
  | cons p rest ih =>
    cases p with
    | delivered raws =>
      have goes : taken (.delivered raws :: rest) = .delivered raws :: taken rest := rfl
      rw [predict, ih, goes, delivered, Tally.plus_of_append]
      simp [Poll.isLast, Poll.isFailure, Nat.add_assoc, Nat.add_comm 1]
    | interrupted =>
      have goes : taken (.interrupted :: rest) = .interrupted :: taken rest := rfl
      rw [predict, ih, goes, delivered]
      simp [Poll.isLast, Poll.isFailure, Nat.add_assoc, Nat.add_comm 1]
    | failed cause =>
      have ends : taken (.failed cause :: rest) = [.failed cause] := rfl
      rw [predict, ends, delivered, Tally.plus_of_nil]
      simp [Poll.isLast, Poll.isFailure]
    | panicked =>
      have ends : taken (.panicked :: rest) = [.panicked] := rfl
      rw [predict, ends]
      simp

namespace Worker

-- The report that the worker ends with when the stop flag leaves it the time.
def forecast (w : Worker) : Option WorkerReport :=
  match w.stage with
  | .opening =>
    match w.script.openFailure with
    | some _ => some { w.report with failed := true }
    | none => predict w.processor.channel w.report w.script.polls
  | .polling => predict w.processor.channel w.report w.script.polls
  | .delivering raws =>
    predict w.processor.channel
      { w.report with tally := w.report.tally.plus (.of w.processor.channel raws) } w.script.polls
  | .waiting => some w.report
  | .ended => some w.report
  | .panicked => none

theorem forecast_fresh (c : Channel) (script : ChannelScript) (setup : Setup) (batchSize : Nat) :
    (fresh c script setup batchSize).forecast = script.report? c := by
  cases failure : script.openFailure with
  | some cause =>
    have forecast : (fresh c script setup batchSize).forecast = some ⟨c, 0, 0, .zero, true⟩ := by
      simp only [Worker.forecast, fresh, failure]
      rfl
    have polled : script.polled = [] := by rw [ChannelScript.polled, failure]
    have raws : script.raws = [] := by rw [ChannelScript.raws, failure]
    simp [forecast, ChannelScript.report?, ChannelScript.idles, polled, raws, failure, Tally.of,
      Tally.zero]
  | none =>
    have forecast : (fresh c script setup batchSize).forecast =
        predict c ⟨c, 0, 0, .zero, false⟩ script.polls := by
      simp only [Worker.forecast, fresh, failure]
      rfl
    have polled : script.polled = taken script.polls := by rw [ChannelScript.polled, failure]
    have raws : script.raws = delivered script.polls := by rw [ChannelScript.raws, failure]
    simp [forecast, predict_eq, ChannelScript.report?, ChannelScript.idles, polled, raws, failure,
      Tally.zero_plus]

/-- The channel is idle or has failed, the worker has panicked, or the channel cannot be opened: there
is nothing that the stop flag could cut short. -/
def Resting (w : Worker) : Prop :=
  match w.stage with
  | .opening => w.script.openFailure ≠ none
  | .polling => False
  | .delivering _ => False
  | .waiting => True
  | .ended => True
  | .panicked => True

theorem Resting.unpolled {w : Worker} (resting : w.Resting) : w.unpolled = [] := by
  simp only [Resting] at resting
  simp only [Worker.unpolled]
  cases stage : w.stage with
  | opening =>
    rw [stage] at resting
    obtain ⟨cause, failure⟩ := Option.ne_none_iff_exists'.mp resting
    simp [ChannelScript.raws, failure]
  | polling | delivering raws =>
    rw [stage] at resting
    exact absurd resting id
  | waiting | ended | panicked => rfl

theorem isOver.resting {w : Worker} (is_over : w.isOver) : w.Resting := by
  rcases is_over with stage | stage <;> simp [Resting, stage]

theorem forecast_of_isOver {w : Worker} (is_over : w.isOver) :
    w.forecast = if w.stage = .ended then some w.report else none := by
  rcases is_over with stage | stage <;> simp [forecast, stage]

-- The step from `w` to `w'` does not change what is to be reported.
structure Foretells (w w' : Worker) : Prop where
  forecast_eq : w'.forecast = w.forecast
  resting : w.Resting → w'.Resting

theorem poll_foretells {w : Worker} (stage : w.stage = .polling) : w.Foretells w.poll := by
  have going : ¬ w.Resting := by simp [Resting, stage]
  refine ⟨?_, fun resting => absurd resting going⟩
  have forecast : w.forecast = predict w.processor.channel w.report w.script.polls := by
    simp only [Worker.forecast, stage]
  rw [forecast]
  have polls := w.polls_poll
  generalize w.poll = v at polls ⊢
  cases polls with
  | interrupted polls =>
    rw [polls]
    simp only [Worker.forecast, beginPoll, stage]
    rfl
  | idled polls | received polls | failed polls | panicked polls =>
    rw [polls]
    rfl

theorem consume_foretells {w : Worker} {raw : List UInt8} {rest : List (List UInt8)}
    (stage : w.stage = .delivering (raw :: rest)) :
    w.Foretells { w.consume raw with stage := .delivering rest } := by
  have going : ¬ w.Resting := by simp [Resting, stage]
  refine ⟨?_, fun resting => absurd resting going⟩
  have counted : (w.consume raw).report.tally =
      w.report.tally.plus (.of w.processor.channel [raw]) := w.processor.consume_tally raw
  have channel : (w.consume raw).processor.channel = w.processor.channel :=
    w.processor.consume_channel raw
  have one_more : w.report.tally.plus (.of w.processor.channel (raw :: rest)) =
      (w.consume raw).report.tally.plus (.of w.processor.channel rest) := by
    rw [counted, ← Tally.plus_of_append, List.singleton_append]
  have report : (w.consume raw).report =
      { w.report with tally := (w.consume raw).report.tally } := rfl
  simp only [forecast, stage]
  rw [one_more]
  show predict (w.consume raw).processor.channel
    { (w.consume raw).report with
      tally := (w.consume raw).report.tally.plus (.of (w.consume raw).processor.channel rest) } _ = _
  rw [channel, report]
  rfl

theorem advance?_foretells {raised : Bool} {w w' : Worker} (rested : raised = true → w.Resting)
    (advanced : w.advance? raised = some w') : w.Foretells w' := by
  cases advances_of_advance? advanced with
  | unopened stage failure =>
    refine ⟨?_, fun _ => trivial⟩
    simp only [forecast, stage, failure]
    rfl
  | opened stage opens =>
    refine ⟨?_, fun resting => ?_⟩
    · simp only [forecast, stage, opens]
      rfl
    · simp [Resting, stage, opens] at resting
  | told stage flag =>
    -- Here the flag would cut the script short.
    have resting := rested flag
    simp [Resting, stage] at resting
  | polled stage => exact poll_foretells stage
  | emptied stage =>
    refine ⟨?_, fun resting => ?_⟩
    · simp only [forecast, stage, Tally.plus_of_nil]
      rfl
    · simp [Resting, stage] at resting
  | consumed stage => exact consume_foretells stage
  | woken stage =>
    refine ⟨?_, fun _ => trivial⟩
    simp only [forecast, stage]
    rfl

theorem step?_foretells {raised : Bool} {w w' : Worker} {batch? : Option Batch}
    (rested : raised = true → w.Resting) (stepped : w.step? raised = some (w', batch?)) :
    w.Foretells w' := by
  simp only [step?] at stepped
  split at stepped
  next batch rest outbox =>
    cases stepped
    exact ⟨rfl, id⟩
  next =>
    obtain ⟨v, advanced, same⟩ := Option.map_eq_some_iff.mp stepped
    cases same
    exact advance?_foretells rested advanced

end Worker

end SchedTelemetry
