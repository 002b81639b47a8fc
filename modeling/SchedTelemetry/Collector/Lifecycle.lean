import SchedTelemetry.Collector.System

set_option autoImplicit false

namespace SchedTelemetry

inductive Incident where
  | recorderMade (c : Channel)
  | recorderDropped (c : Channel)
  | threadStarted (c : Channel)
  | threadEnded (c : Channel)
  | bindingDropped
  | sessionStopped
  deriving DecidableEq

namespace System

def threadRuns (s : System) (c : Channel) : Bool :=
  (s.workers.get c).any (!·.isGone)

def coordinatorIncidents (s : System) : List Incident :=
  match s.stage with
  | .acquiring built (c :: _) =>
    match (s.plan.scripts.get c).unavailable with
    | some _ => built.map .recorderDropped
    | none => [.recorderMade c]
  | .starting (c :: _) =>
    match (s.plan.scripts.get c).startFailure with
    | some _ => [.recorderDropped c]
    | none => [.threadStarted c]
  -- The handlers that are left go down after the workers have been joined.
  | .abandoning _ unstarted => if s.allGone then unstarted.map .recorderDropped else []
  | .detaching _ => [.bindingDropped]
  | .stopping _ => [.sessionStopped]
  | _ => []

def incidents (s : System) : Action → List Incident
  | .coordinate => s.coordinatorIncidents
  | .work c =>
    if s.threadRuns c && !(s.step (.work c)).threadRuns c then
      [.recorderDropped c, .threadEnded c]
    else []
  | .write => []
  | .raise => []

def history (s : System) : List Action → List Incident
  | [] => []
  | a :: rest => s.incidents a ++ (s.step a).history rest

end System

end SchedTelemetry
