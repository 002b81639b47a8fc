import SchedTelemetry.Proofs.QueuedWriting
import SchedTelemetry.Proofs.Refusal

set_option autoImplicit false

namespace SchedTelemetry

-- The channels before `c` are there and `c` is not.
structure Plan.Lacks (plan : Plan) (before : List Channel) (c : Channel) (cause : String) : Prop where
  order : ∃ after, Channel.all = before ++ c :: after
  available : ∀ d ∈ before, (plan.scripts.get d).unavailable = none
  unavailable : (plan.scripts.get c).unavailable = some cause

theorem Plan.exists_lacks {plan : Plan} (broken : ∃ c, (plan.scripts.get c).unavailable ≠ none) :
    ∃ before c cause, plan.Lacks before c cause := by
  obtain ⟨d, missing⟩ := broken
  cases found : Channel.all.find? (fun c => (plan.scripts.get c).unavailable.isSome) with
  | none =>
    have there := List.find?_eq_none.mp found d d.mem_all
    exact absurd (Option.not_isSome_iff_eq_none.mp there) missing
  | some c =>
    obtain ⟨some_cause, before, after, order, available⟩ := List.find?_eq_some_iff_append.mp found
    obtain ⟨cause, unavailable⟩ := Option.isSome_iff_exists.mp some_cause
    refine ⟨before, c, cause, ⟨after, order⟩, ?_, unavailable⟩
    intro d member
    simpa using available d member

theorem Plan.Lacks.find? {plan : Plan} {before : List Channel} {c : Channel} {cause : String}
    (lacks : plan.Lacks before c cause) :
    Channel.all.find? (fun d => (plan.scripts.get d).unavailable.isSome) = some c := by
  obtain ⟨after, order⟩ := lacks.order
  refine List.find?_eq_some_iff_append.mpr ⟨by simp [lacks.unavailable], before, after, order, ?_⟩
  intro d member
  simp [lacks.available d member]

theorem Plan.Lacks.congr {plan plan' : Plan} {before : List Channel} {c : Channel} {cause : String}
    (lacks : plan.Lacks before c cause)
    (same : ∀ d, (plan'.scripts.get d).unavailable = (plan.scripts.get d).unavailable) :
    plan'.Lacks before c cause where
  order := lacks.order
  available d member := (same d).trans (lacks.available d member)
  unavailable := (same c).trans lacks.unavailable

theorem Session.start_of_start {w : TraceWriter} {batchSize : Nat} {s : Session}
    (started : start w batchSize = .ok s) (other : Nat) :
    start w other = .ok { s with batchSize := max other 1 } := by
  simp only [start] at started ⊢
  split at started
  · cases started
    rfl
  · cases started

def Session.closing (s : Session) : Notice :=
  match s.stop.result with
  | .ok n => .traceWritten n
  | .error e => .traceCloseFailed e.message

namespace System

def GivesUp (s : System) (before : List Channel) (c : Channel) (cause : String) (n : Nat) : Prop :=
  match s.stage with
  | .acquiring built rest =>
    n = built.length ∧ s.notices = [] ∧
      ∃ todo after, before = built ++ todo ∧ rest = todo ++ c :: after
  | .detaching outcome =>
    n = before.length + 1 ∧ s.notices = [] ∧ outcome = .error (.channelUnavailable c cause)
  | .stopping outcome =>
    n = before.length + 2 ∧ s.notices = [] ∧ outcome = .error (.channelUnavailable c cause)
  | .finished result =>
    before.length + 3 ≤ n ∧ s.notices = [s.session.closing] ∧
      result = .error (.channelUnavailable c cause) ∧ s.sink = some s.session.stop.sink
  | _ => False

structure Fails (s : System) (plan : Plan) (session : Session) (before : List Channel) (c : Channel)
    (cause : String) (n : Nat) : Prop where
  plan_eq : s.plan = plan
  session_eq : s.session = session
  workers : ∀ d, s.workers.get d = none
  idle : s.sent = [] ∧ s.lost = []
  finish_eq : s.writer.finish = Session.drain session.writer (session.sent.map (·.2))
  gives_up : s.GivesUp before c cause n

variable {plan : Plan} {session : Session} {before : List Channel} {c : Channel} {cause : String}
  {s : System} {n : Nat}

theorem initial_fails (lacks : plan.Lacks before c cause) (session : Session) (raised : Bool) :
    (initial plan session raised).Fails plan session before c cause 0 := by
  obtain ⟨after, order⟩ := lacks.order
  exact ⟨rfl, rfl, by simp [initial], ⟨rfl, rfl⟩, rfl, rfl, rfl, before, after, rfl, order⟩

theorem stopSession_error (s : System)
    (finish_eq : s.writer.finish = Session.drain s.session.writer (s.session.sent.map (·.2)))
    (e : CollectError) :
    s.stopSession (.error e) =
      { s with
        writer := .ended s.writer.finish
        sink := some s.session.stop.sink
        notices := s.notices ++ [s.session.closing]
        stage := .finished (.error e) } := by
  have same : Session.Stopped.of s.writer.finish = s.session.stop := by rw [finish_eq, Session.stop]
  simp only [stopSession, same, Session.closing]
  split <;> simp_all [say]

theorem Fails.coordinate (fails : s.Fails plan session before c cause n)
    (lacks : plan.Lacks before c cause) : s.coordinate.Fails plan session before c cause (n + 1) := by
  have moves := s.moves_coordinate
  generalize s.coordinate = s' at moves ⊢
  obtain ⟨rfl, rfl, workers, idle, finish_eq, gives_up⟩ := fails
  simp only [GivesUp] at gives_up
  cases moves with
  | @denied built rest d found stage unavailable =>
    rw [stage] at gives_up
    obtain ⟨count, silent, todo, after, order, left⟩ := gives_up
    cases todo with
    | nil =>
      obtain ⟨rfl, rfl⟩ := List.cons.inj left
      obtain rfl : found = cause := Option.some.inj (unavailable.symm.trans lacks.unavailable)
      refine ⟨rfl, rfl, workers, idle, finish_eq, ?_, silent, rfl⟩
      simp [order, count]
    | cons head todo =>
      obtain ⟨rfl, rfl⟩ := List.cons.inj left
      have available := lacks.available d (by simp [order])
      rw [unavailable] at available
      cases available
  | @acquired built rest d stage available =>
    rw [stage] at gives_up
    obtain ⟨count, silent, todo, after, order, left⟩ := gives_up
    cases todo with
    | nil =>
      obtain ⟨rfl, rfl⟩ := List.cons.inj left
      rw [lacks.unavailable] at available
      cases available
    | cons head todo =>
      obtain ⟨rfl, rfl⟩ := List.cons.inj left
      refine ⟨rfl, rfl, workers, idle, finish_eq, ?_, silent, todo, after, ?_, rfl⟩
      · simp [count]
      · simp [order]
  | gathered stage =>
    rw [stage] at gives_up
    obtain ⟨-, -, todo, after, -, left⟩ := gives_up
    cases todo <;> cases left
  | detached stage =>
    rw [stage] at gives_up
    obtain ⟨rfl, silent, outcome⟩ := gives_up
    exact ⟨rfl, rfl, workers, idle, finish_eq, rfl, silent, outcome⟩
  | closed stage =>
    rw [stage] at gives_up
    obtain ⟨rfl, silent, rfl⟩ := gives_up
    rw [s.stopSession_error finish_eq]
    refine ⟨rfl, rfl, workers, idle, finish_eq, Nat.le_refl _, ?_, rfl, rfl⟩
    simp [silent]
  | waited waits =>
    refine ⟨rfl, rfl, workers, idle, finish_eq, ?_⟩
    simp only [GivesUp]
    cases stage : s.stage with
    | finished result =>
      rw [stage] at gives_up
      exact ⟨Nat.le_succ_of_le gives_up.1, gives_up.2⟩
    | abandoning | watching | joining =>
      rw [stage] at gives_up
      exact gives_up.elim
    | _ => simp [Waits, stage] at waits
  | unstarted stage | started stage | complete stage | abandoned stage | stopped stage
  | joined stage =>
    rw [stage] at gives_up
    exact gives_up.elim

theorem Fails.step (fails : s.Fails plan session before c cause n)
    (lacks : plan.Lacks before c cause) (a : Action) :
    (s.step a).Fails plan session before c cause (n + [a].count .coordinate) := by
  cases a with
  | coordinate => exact fails.coordinate lacks
  | work d =>
    have stuck : s.work? d = none := by simp [work?, fails.workers d]
    rw [step_of_stuck stuck]
    exact fails
  | write =>
    cases written : s.write? with
    | none => rwa [step_of_write?_none written]
    | some s' =>
      rw [step_of_write? written]
      obtain ⟨t, stepped, rfl⟩ := Option.map_eq_some_iff.mp written
      obtain ⟨plan_eq, session_eq, workers, idle, finish_eq, gives_up⟩ := fails
      have same := (WriterThread.steps_of_step? stepped).finish_eq
      exact ⟨plan_eq, session_eq, workers, idle, same.trans finish_eq, gives_up⟩
  | raise =>
    obtain ⟨plan_eq, session_eq, workers, idle, finish_eq, gives_up⟩ := fails
    exact ⟨plan_eq, session_eq, workers, idle, finish_eq, gives_up⟩

theorem Fails.run (fails : s.Fails plan session before c cause n) (lacks : plan.Lacks before c cause)
    (actions : List Action) :
    (s.run actions).Fails plan session before c cause (n + actions.count .coordinate) := by
  induction actions generalizing s n with
  | nil => exact fails
  | cons a rest ih =>
    have later := ih (fails.step lacks a)
    rwa [Nat.add_assoc, ← List.count_append] at later

theorem Fails.finished_iff (fails : s.Fails plan session before c cause n) :
    (∃ result, s.stage = .finished result) ↔ before.length + 3 ≤ n := by
  have gives_up := fails.gives_up
  simp only [GivesUp] at gives_up
  cases stage : s.stage with
  | acquiring =>
    rw [stage] at gives_up
    obtain ⟨rfl, -, todo, after, rfl, -⟩ := gives_up
    simp
    omega
  | detaching | stopping =>
    rw [stage] at gives_up
    simp [gives_up.1]
  | finished =>
    rw [stage] at gives_up
    simp [gives_up.1]
  | _ =>
    rw [stage] at gives_up
    exact gives_up.elim

theorem Fails.result_eq (fails : s.Fails plan session before c cause n)
    {result : Except CollectError CollectionReport} (finished : s.stage = .finished result) :
    result = .error (.channelUnavailable c cause) ∧ s.sink = some session.stop.sink ∧
      s.notices = [session.closing] := by
  have gives_up := fails.gives_up
  simp only [GivesUp] at gives_up
  rw [finished, fails.session_eq] at gives_up
  exact ⟨gives_up.2.2.1, gives_up.2.2.2, gives_up.2.1⟩

def lacking : Plan where
  setup := ⟨.every, .empty, .empty⟩
  scripts := .ofFn fun
    | .freqIdle => { ChannelScript.idle with unavailable := some "no such map" }
    | .ipi => { ChannelScript.idle with unavailable := some "no such program" }
    | _ => .idle

end System

end SchedTelemetry
