import SchedTelemetry.Collector.System

set_option autoImplicit false

namespace SchedTelemetry

namespace System

theorem work?_eq_some {s s' : System} {c : Channel} (h : s.work? c = some s') :
    ∃ w w' batch? ns, s.workers.get c = some w ∧ w.step? s.raised = some (w', batch?) ∧
      s' = { s with
        workers := s.workers.set c (some (w'.say ns))
        writer := s'.writer
        sent := s'.sent
        lost := s'.lost } := by
  unfold work? at h
  split at h
  · cases h
  · next w hw =>
    split at h
    · cases h
    · next w' hstep =>
      cases h
      exact ⟨w, w', none, [], hw, hstep, by simp [setWorker, Worker.say]⟩
    · next w' b hstep =>
      split at h
      · cases h
        exact ⟨w, w', some b, [], hw, hstep, by simp [sends, setWorker, Worker.say]⟩
      · cases h
      · cases h
        exact ⟨w, w', some b, _, hw, hstep, rfl⟩

-- A worker takes its step, or the writer makes room in a queue that is full.
def goOn? (s : System) (c : Channel) : Option System :=
  match s.work? c with
  | some s' => some s'
  | none => if s.writer.isFull then s.write? else none

def left (s : System) (c : Channel) : Nat × Nat × Nat :=
  match s.workers.get c with
  | none => (0, 0, 0)
  | some w => (w.stagesLeft, w.deliveriesLeft, w.outbox.length)

theorem left_work? {s s' : System} {c : Channel} (h : s.work? c = some s') :
    Prod.Lex (· < ·) (Prod.Lex (· < ·) (· < ·)) (s'.left c) (s.left c) := by
  obtain ⟨w, w', batch?, ns, hw, hstep, same⟩ := work?_eq_some h
  have decreases := Worker.step?_decreases hstep
  rw [same]
  simp only [left, hw, PerChannel.get_set, if_pos]
  exact decreases

theorem left_goOn? {s s' : System} {c : Channel} (h : s.goOn? c = some s') :
    Prod.Lex (Prod.Lex (· < ·) (Prod.Lex (· < ·) (· < ·))) (· < ·)
      (s'.left c, s'.writer.left) (s.left c, s.writer.left) := by
  unfold goOn? at h
  split at h
  · next worked =>
    cases h
    exact Prod.Lex.left _ _ (left_work? worked)
  · split at h
    · obtain ⟨t, stepped, rfl⟩ := Option.map_eq_some_iff.mp h
      exact Prod.Lex.right _ (WriterThread.step?_left stepped)
    · cases h

def settle (c : Channel) (s : System) : System :=
  match _h : s.goOn? c with
  | none => s
  | some s' => s'.settle c
termination_by (s.left c, s.writer.left)
decreasing_by exact left_goOn? _h

-- In this order of the steps every worker goes as far as it can before the coordinator's next one.
def settleAll (s : System) : System :=
  Channel.all.foldl (fun s c => s.settle c) s

def round (s : System) : System :=
  s.settleAll.coordinate

def rounds : Nat → System → System
  | 0, s => s
  | n + 1, s => s.round.rounds n

-- More steps than the coordinator ever takes: two for each channel and six more.
def enoughRounds : Nat := 2 * Channel.all.length + 6

def raiseWhenQuiet (s : System) : System :=
  if s.isQuiet && s.someWaiting then s.step .raise else s

def runToEnd (s : System) : System :=
  (s.rounds enoughRounds).raiseWhenQuiet.rounds enoughRounds

end System

structure Collection where
  result : Except CollectError CollectionReport
  bindingDrops : Nat
  sink : Sink
  coordinatorNotices : List Notice
  workerNotices : List (Channel × List Notice)

def System.collection? (s : System) : Option Collection :=
  match s.stage, s.sink with
  | .finished result, some sink =>
    some
      { result
        bindingDrops := s.bindingDrops
        sink
        coordinatorNotices := s.notices
        workerNotices := Channel.all.filterMap (fun c =>
          (s.workers.get c).map (fun w => (c, w.notices))) }
  | _, _ => none

def collect? (plan : Plan) (session : Session) (raised : Bool) : Option Collection :=
  (System.initial plan session raised).runToEnd.collection?

end SchedTelemetry
