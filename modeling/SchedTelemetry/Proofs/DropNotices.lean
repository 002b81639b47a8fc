import Mathlib.Data.List.Count
import SchedTelemetry.Proofs.Conservation

set_option autoImplicit false

namespace SchedTelemetry

theorem Processor.consume_silent (p : Processor) (raw : List UInt8) :
    Notice.recordsDropped ∉ (p.consume raw).2.notices := by
  simp only [consume]
  split
  next e _ =>
    cases e with
    | rqPelt e =>
      simp only [handle, note, rqPeltNotices]
      split <;> simp
    | loadBalance e =>
      simp only [handle, note, handleLoadBalance, misfitNotices, exitNotices]
      split
      · split <;> split <;> simp
      · simp
    | _ => simp [handle, note]
  next => simp

theorem Processor.closing_silent (p : Processor) :
    Notice.recordsDropped ∉ p.closingNotices := by
  simp [closingNotices, stillOpenNotices]

namespace Worker

def drops (w : Worker) : Nat := w.notices.count .recordsDropped

@[simp] theorem say_drops (w : Worker) (ns : List Notice) :
    (w.say ns).drops = w.drops + ns.count .recordsDropped := by
  simp [drops, say]

theorem finish_drops (w : Worker) : w.finish.drops = w.drops := by
  have silent := List.count_eq_zero.mpr w.processor.closing_silent
  simp [finish, silent]
  rfl

theorem fail_drops (w : Worker) {n : Notice} (other : n ≠ .recordsDropped) :
    (w.fail n).drops = w.drops := by
  rw [fail, finish_drops]
  simp [other]
  rfl

theorem poll_drops (w : Worker) : w.poll.drops = w.drops := by
  have polls := w.polls_poll
  generalize w.poll = v at polls ⊢
  cases polls with
  | failed => exact fail_drops _ (by simp)
  | idled | received | interrupted | panicked => rfl

theorem step?_drops {raised : Bool} {w w' : Worker} {batch? : Option Batch}
    (stepped : w.step? raised = some (w', batch?)) : w'.drops = w.drops := by
  simp only [step?] at stepped
  split at stepped
  next =>
    cases stepped
    rfl
  next =>
    obtain ⟨v, advanced, same⟩ := Option.map_eq_some_iff.mp stepped
    cases same
    cases advances_of_advance? advanced with
    | unopened => exact fail_drops _ (by simp)
    | told | woken => exact w.finish_drops
    | polled => exact w.poll_drops
    | @consumed raw rest =>
      have silent := List.count_eq_zero.mpr (w.processor.consume_silent raw)
      simp only [drops, consume, say, List.count_append, silent, Nat.add_zero]
    | opened | emptied => rfl

end Worker

namespace System

def drops (s : System) (c : Channel) : Nat :=
  match s.workers.get c with
  | none => 0
  | some w => w.drops

-- Each lost batch has its notice, from the worker that could not hand it over.
def Warned (s : System) : Prop :=
  ∀ c, s.drops c = s.lost.countP (fun entry => entry.1 = c)

variable {s s' : System}

theorem drops_of_get {c : Channel} {w : Worker} (here : s.workers.get c = some w) :
    s.drops c = w.drops := by
  rw [drops, here]

theorem initial_warned (plan : Plan) (session : Session) (raised : Bool) :
    (initial plan session raised).Warned := by
  intro c
  have no_worker : (initial plan session raised).workers.get c = none := PerChannel.get_ofFn _ c
  rw [drops, no_worker]
  rfl

theorem drops_setWorker (s : System) (c d : Channel) (w : Worker) :
    (s.setWorker c w).drops d = if d = c then w.drops else s.drops d := by
  simp only [drops, setWorker, PerChannel.get_set]
  by_cases own : d = c <;> simp [own]

theorem Warned.setWorker (warned : s.Warned) {c : Channel} {w : Worker}
    (same : w.drops = s.drops c) : (s.setWorker c w).Warned := by
  intro d
  have before := warned d
  rw [drops_setWorker]
  by_cases own : d = c
  · subst own
    rw [if_pos rfl, same]
    exact before
  · rw [if_neg own]
    exact before

theorem Warned.loses (warned : s.Warned) {c : Channel} {w : Worker} (same : w.drops = s.drops c)
    (b : Batch) : ((s.setWorker c (w.say [.recordsDropped])).loses c b).Warned := by
  intro d
  have before := warned d
  show (s.setWorker c (w.say [.recordsDropped])).drops d =
    (s.lost ++ [(c, b)]).countP (fun entry => entry.1 = d)
  rw [drops_setWorker, List.countP_append]
  by_cases own : d = c
  · subst own
    rw [if_pos rfl, Worker.say_drops, same, before]
    simp
  · rw [if_neg own, before]
    simp [Ne.symm own]

theorem Warned.work {c : Channel} (warned : s.Warned) (worked : s.work? c = some s') :
    s'.Warned := by
  cases works_of_work? worked with
  | advanced here stepped | sent here stepped =>
    exact warned.setWorker ((Worker.step?_drops stepped).trans (drops_of_get here).symm)
  | dropped here stepped =>
    exact warned.loses ((Worker.step?_drops stepped).trans (drops_of_get here).symm) _

theorem Warned.coordinate {plan : Plan} {format : TraceFormat} {limit : Option Nat}
    (warned : s.Warned) (sound : s.Sound plan format limit) : s.coordinate.Warned := by
  have moves := s.moves_coordinate
  generalize s.coordinate = t at moves ⊢
  cases moves with
  | @started rest c stage =>
    have no_worker : s.workers.get c = none :=
      ((placed_at sound.placed stage).2 c).mpr List.mem_cons_self
    refine warned.setWorker (c := c) (w := .fresh c _ s.plan.setup s.session.batchSize) ?_
    rw [drops, no_worker]
    rfl
  | closed =>
    simp only [stopSession]
    split <;> exact warned
  | _ => exact warned

theorem Warned.step {plan : Plan} {format : TraceFormat} {limit : Option Nat} (warned : s.Warned)
    (sound : s.Sound plan format limit) (a : Action) : (s.step a).Warned := by
  cases a with
  | coordinate => exact warned.coordinate sound
  | work c =>
    cases worked : s.work? c with
    | none => rwa [step_of_stuck worked]
    | some s' =>
      rw [step_of_worked worked]
      exact warned.work worked
  | write =>
    cases written : s.write? with
    | none => rwa [step_of_write?_none written]
    | some s' =>
      rw [step_of_write? written]
      obtain ⟨t, -, rfl⟩ := Option.map_eq_some_iff.mp written
      exact warned
  | raise => exact warned

theorem Warned.run {plan : Plan} {format : TraceFormat} {limit : Option Nat} (warned : s.Warned)
    (sound : s.Sound plan format limit) (ready : plan.Ready) {actions : List Action}
    (patient : s.Patient actions) : (s.run actions).Warned := by
  induction actions generalizing s with
  | nil => exact warned
  | cons a rest ih => exact ih (warned.step sound a) (sound.step ready patient.1) patient.2

end System

end SchedTelemetry
