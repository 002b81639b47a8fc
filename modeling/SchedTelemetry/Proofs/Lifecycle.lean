import Mathlib.Data.List.Count
import SchedTelemetry.Collector.Lifecycle
import SchedTelemetry.Proofs.Completion

set_option autoImplicit false

namespace SchedTelemetry

/-- What must have happened before an incident, and what must not. -/
def Incident.Due (past : List Incident) : Incident → Prop
  | .bindingDropped =>
    .bindingDropped ∉ past ∧ .sessionStopped ∉ past ∧
      ∀ c, past.count (.threadStarted c) = past.count (.threadEnded c)
  | .sessionStopped =>
    .bindingDropped ∈ past ∧ .sessionStopped ∉ past ∧
      ∀ c, past.count (.recorderMade c) = past.count (.recorderDropped c)
  | _ => .bindingDropped ∉ past ∧ .sessionStopped ∉ past

def Orderly (history : List Incident) : Prop :=
  ∀ past i later, history = past ++ i :: later → i.Due past

theorem Orderly.append {h next : List Incident} (orderly : Orderly h)
    (due : ∀ past i later, next = past ++ i :: later → i.Due (h ++ past)) : Orderly (h ++ next) := by
  intro past i later split
  rcases List.append_eq_append_iff.mp split with ⟨more, rfl, inside⟩ | ⟨more, whole, inside⟩
  · exact due more i later inside
  · cases more with
    | nil =>
      obtain rfl : h = past := by simpa using whole
      simpa using due [] i later inside.symm
    | cons j more =>
      obtain ⟨rfl, -⟩ := List.cons.inj inside
      exact orderly past i more whole

theorem Orderly.append_plain {h next : List Incident} (orderly : Orderly h)
    (attached : .bindingDropped ∉ h) (going : .sessionStopped ∉ h)
    (no_drop : .bindingDropped ∉ next) (no_stop : .sessionStopped ∉ next) : Orderly (h ++ next) := by
  apply orderly.append
  rintro past i later rfl
  cases i with
  | bindingDropped => simp at no_drop
  | sessionStopped => simp at no_stop
  | _ => simp_all [Incident.Due]

theorem Orderly.concat {h : List Incident} {i : Incident} (orderly : Orderly h) (due : i.Due h) :
    Orderly (h ++ [i]) := by
  apply orderly.append
  intro past j later split
  have only : past = [] ∧ j = i ∧ later = [] := by simpa [List.singleton_eq_append_iff] using split
  obtain ⟨rfl, rfl, -⟩ := only
  simpa using due

@[simp] theorem count_recorderDropped (channels : List Channel) (c : Channel) :
    (channels.map Incident.recorderDropped).count (.recorderDropped c) = channels.count c :=
  List.count_map_of_injective channels _ (fun _ _ same => Incident.recorderDropped.inj same) c

@[simp] theorem count_of_not_recorderDropped (channels : List Channel) {i : Incident}
    (other : ∀ c, i ≠ .recorderDropped c) : (channels.map Incident.recorderDropped).count i = 0 := by
  rw [List.count_eq_zero, List.mem_map]
  rintro ⟨c, -, same⟩
  exact other c same.symm

namespace CoordinatorStage

@[simp] def unstarted : CoordinatorStage → List Channel
  | .acquiring built _ => built
  | .starting rest => rest
  | .abandoning _ unstarted => unstarted
  | _ => []

@[simp] def pending : CoordinatorStage → List Channel
  | .acquiring built rest => built ++ rest
  | stage => stage.unstarted

@[simp] def acquires : CoordinatorStage → Bool
  | .acquiring _ _ => true
  | _ => false

@[simp] def joined : CoordinatorStage → Bool
  | .detaching _ | .stopping _ | .finished _ => true
  | _ => false

@[simp] def detached : CoordinatorStage → Bool
  | .stopping _ | .finished _ => true
  | _ => false

end CoordinatorStage

namespace System

structure Arranged (s : System) : Prop where
  distinct : s.stage.pending.Nodup
  threadless : ∀ c ∈ s.stage.pending, s.workers.get c = none
  whole : s.stage.acquires = false ∨ s.stage.pending = Channel.all
  ended : s.stage.joined = false ∨ ∀ c, s.threadRuns c = false
  drops : s.bindingDrops = s.stage.detached.toNat
  sink : s.sink.isSome = s.stage.closed

theorem threadRuns_of_none {s : System} {c : Channel} (none_yet : s.workers.get c = none) :
    s.threadRuns c = false := by
  simp [threadRuns, none_yet]

theorem allGone_iff_threadRuns {s : System} : s.allGone = true ↔ ∀ c, s.threadRuns c = false := by
  simp [allGone, threadRuns, Channel.mem_all, Option.all_eq_true, Option.any_eq_false]

theorem initial_arranged (plan : Plan) (session : Session) (raised : Bool) :
    (initial plan session raised).Arranged where
  distinct := (by decide : Channel.all.Nodup)
  threadless := by simp [initial]
  whole := .inr rfl
  ended := .inl rfl
  drops := rfl
  sink := rfl

theorem Arranged.not_joined {s : System} (arranged : s.Arranged) {c : Channel}
    (runs : s.threadRuns c = true) : s.stage.joined = false := by
  apply arranged.ended.resolve_right
  intro ended
  rw [ended c] at runs
  cases runs

theorem Arranged.coordinate {s : System} (arranged : s.Arranged) : s.coordinate.Arranged := by
  have moves := s.moves_coordinate
  generalize s.coordinate = s' at moves ⊢
  obtain ⟨distinct, threadless, whole, ended, drops, sink⟩ := arranged
  cases moves with
  | denied stage =>
    rw [stage] at threadless whole drops sink
    have all_pending := whole.resolve_left (by simp)
    have ended (c : Channel) : s.threadRuns c = false := by
      apply threadRuns_of_none (threadless c _)
      rw [all_pending]
      exact c.mem_all
    exact ⟨List.nodup_nil, by simp, .inl rfl, .inr ended, drops, sink⟩
  | @acquired built rest c stage =>
    have same : built ++ [c] ++ rest = built ++ c :: rest := by simp
    rw [stage] at distinct threadless whole drops sink
    simp only [CoordinatorStage.pending, ← same] at distinct threadless whole
    exact ⟨distinct, threadless, whole, .inl rfl, drops, sink⟩
  | gathered stage =>
    rw [stage] at distinct threadless drops sink
    simp only [CoordinatorStage.pending, List.append_nil] at distinct threadless
    exact ⟨distinct, threadless, .inl rfl, .inl rfl, drops, sink⟩
  | unstarted stage =>
    rw [stage] at distinct threadless drops sink
    obtain ⟨-, distinct⟩ := List.nodup_cons.mp distinct
    exact ⟨distinct, fun c member => threadless c (List.mem_cons_of_mem _ member), .inl rfl, .inl rfl,
      drops, sink⟩
  | started stage =>
    rw [stage] at distinct threadless drops sink
    obtain ⟨not_again, distinct⟩ := List.nodup_cons.mp distinct
    refine ⟨distinct, ?_, .inl rfl, .inl rfl, drops, sink⟩
    intro d member
    have other : d ≠ _ := ne_of_mem_of_not_mem member not_again
    rw [get_startWorker, if_neg other]
    exact threadless d (List.mem_cons_of_mem _ member)
  | complete stage | stopped stage =>
    rw [stage] at drops sink
    exact ⟨List.nodup_nil, by simp, .inl rfl, .inl rfl, drops, sink⟩
  | abandoned stage all_gone | joined stage all_gone =>
    rw [stage] at drops sink
    exact ⟨List.nodup_nil, by simp, .inl rfl, .inr (allGone_iff_threadRuns.mp all_gone), drops, sink⟩
  | detached stage =>
    rw [stage] at ended drops sink
    exact ⟨List.nodup_nil, by simp, .inl rfl, ended, congrArg (· + 1) drops, sink⟩
  | closed stage =>
    rw [stage] at ended drops
    simp only [stopSession]
    split <;> exact ⟨List.nodup_nil, by simp, .inl rfl, ended, drops, rfl⟩
  | waited => exact ⟨distinct, threadless, whole, ended, drops, sink⟩

theorem threadRuns_work {s s' : System} {c : Channel} (worked : s.work? c = some s') :
    s.threadRuns c = true ∧ ∀ d, d ≠ c → s'.workers.get d = s.workers.get d := by
  obtain ⟨w, w', batch?, ns, here, stepped, same⟩ := work?_eq_some worked
  constructor
  · cases gone : w.isGone with
    | false => simp [threadRuns, here, gone]
    | true =>
      rw [Worker.step?_of_isGone gone] at stepped
      cases stepped
  · intro d other
    rw [same]
    exact PerChannel.get_set_of_ne _ _ other

theorem Arranged.work {s s' : System} {c : Channel} (arranged : s.Arranged)
    (worked : s.work? c = some s') : s'.Arranged := by
  obtain ⟨runs, others⟩ := threadRuns_work worked
  have running := arranged.not_joined runs
  obtain ⟨distinct, threadless, whole, -, drops, sink⟩ := arranged
  obtain ⟨w, w', batch?, ns, here, -, same⟩ := work?_eq_some worked
  rw [same] at others ⊢
  refine ⟨distinct, ?_, whole, .inl running, drops, sink⟩
  intro d member
  have other : d ≠ c := by
    rintro rfl
    rw [threadless d member] at here
    cases here
  exact (others d other).trans (threadless d member)

theorem Arranged.step {s : System} (arranged : s.Arranged) (a : Action) : (s.step a).Arranged := by
  cases a with
  | coordinate => exact arranged.coordinate
  | work c =>
    cases worked : s.work? c with
    | none => rwa [step_of_stuck worked]
    | some s' =>
      rw [step_of_worked worked]
      exact arranged.work worked
  | write =>
    cases written : s.write? with
    | none => rwa [step_of_write?_none written]
    | some s' =>
      rw [step_of_write? written]
      obtain ⟨t, -, rfl⟩ := Option.map_eq_some_iff.mp written
      obtain ⟨distinct, threadless, whole, ended, drops, sink⟩ := arranged
      exact ⟨distinct, threadless, whole, ended, drops, sink⟩
  | raise =>
    obtain ⟨distinct, threadless, whole, ended, drops, sink⟩ := arranged
    exact ⟨distinct, threadless, whole, ended, drops, sink⟩

-- What has happened and what is there now balance.
structure Ledger (history : List Incident) (s : System) : Prop where
  orderly : Orderly history
  recorders : ∀ c, history.count (.recorderMade c) =
    history.count (.recorderDropped c) + s.stage.unstarted.count c + (s.threadRuns c).toNat
  threads : ∀ c, history.count (.threadStarted c) =
    history.count (.threadEnded c) + (s.threadRuns c).toNat
  binding : history.count .bindingDropped = s.stage.detached.toNat
  session : history.count .sessionStopped = s.stage.closed.toNat

theorem initial_ledger (plan : Plan) (session : Session) (raised : Bool) :
    Ledger [] (initial plan session raised) where
  orderly := by simp [Orderly]
  recorders := by simp [initial, threadRuns]
  threads := by simp [initial, threadRuns]
  binding := rfl
  session := rfl

variable {s s' : System} {h next : List Incident}

theorem Ledger.attached (ledger : Ledger h s) (attached : s.stage.detached = false) :
    .bindingDropped ∉ h := by
  rw [← List.count_eq_zero, ledger.binding, attached]
  rfl

theorem Ledger.going (ledger : Ledger h s) (going : s.stage.closed = false) :
    .sessionStopped ∉ h := by
  rw [← List.count_eq_zero, ledger.session, going]
  rfl

theorem closed_of_attached {stage : CoordinatorStage} (attached : stage.detached = false) :
    stage.closed = false := by
  cases stage <;> first | rfl | cases attached

theorem Ledger.append (ledger : Ledger h s) (before : s.stage.detached = false)
    (after : s'.stage.detached = false) (no_drop : .bindingDropped ∉ next)
    (no_stop : .sessionStopped ∉ next)
    (recorders : ∀ c,
      next.count (.recorderMade c) + s.stage.unstarted.count c + (s.threadRuns c).toNat =
        next.count (.recorderDropped c) + s'.stage.unstarted.count c + (s'.threadRuns c).toNat)
    (threads : ∀ c, next.count (.threadStarted c) + (s.threadRuns c).toNat =
      next.count (.threadEnded c) + (s'.threadRuns c).toNat) : Ledger (h ++ next) s' where
  orderly := ledger.orderly.append_plain (ledger.attached before)
    (ledger.going (closed_of_attached before)) no_drop no_stop
  recorders c := by
    have books := ledger.recorders c
    have change := recorders c
    rw [List.count_append, List.count_append]
    omega
  threads c := by
    have books := ledger.threads c
    have change := threads c
    rw [List.count_append, List.count_append]
    omega
  binding := by
    rw [List.count_append, ledger.binding, List.count_eq_zero.mpr no_drop, before, after]
    rfl
  session := by
    rw [List.count_append, ledger.session, List.count_eq_zero.mpr no_stop, closed_of_attached before,
      closed_of_attached after]
    rfl

theorem threadRuns_startWorker (s : System) (c d : Channel) :
    (s.startWorker c).threadRuns d = if d = c then true else s.threadRuns d := by
  simp only [threadRuns, get_startWorker]
  split <;> rfl

theorem stopSession_finished (s : System) (outcome : Except CollectError (List WorkerReport)) :
    (∃ result, (s.stopSession outcome).stage = .finished result) ∧
      (s.stopSession outcome).workers = s.workers := by
  simp only [stopSession]
  split <;> exact ⟨⟨_, rfl⟩, rfl⟩

theorem Waits.coordinatorIncidents (waits : s.Waits) : s.coordinatorIncidents = [] := by
  simp only [Waits] at waits
  split at waits
  next stage => simp [System.coordinatorIncidents, stage, waits]
  next stage => simp [System.coordinatorIncidents, stage]
  next stage => simp [System.coordinatorIncidents, stage]
  next stage => simp [System.coordinatorIncidents, stage]
  next => exact absurd waits id

theorem Ledger.coordinate (ledger : Ledger h s) (arranged : s.Arranged) :
    Ledger (h ++ s.coordinatorIncidents) s.coordinate := by
  have moves := s.moves_coordinate
  generalize s.coordinate = s' at moves ⊢
  cases moves with
  | denied stage unavailable =>
    simp only [coordinatorIncidents, stage, unavailable]
    apply ledger.append <;> simp [stage, threadRuns]
  | acquired stage available =>
    simp only [coordinatorIncidents, stage, available]
    apply ledger.append <;>
      simp [stage, threadRuns, List.count_cons, Nat.add_comm]
  | unstarted stage failure =>
    simp only [coordinatorIncidents, stage, failure]
    apply ledger.append <;>
      simp [stage, threadRuns, List.count_cons, Nat.add_comm]
  | @started rest c stage starts =>
    have fresh : s.threadRuns c = false :=
      threadRuns_of_none (arranged.threadless c (by simp [stage]))
    have runs (d : Channel) : ({ s.startWorker c with stage := .starting rest } : System).threadRuns d =
      if d = c then true else s.threadRuns d := threadRuns_startWorker s c d
    simp only [coordinatorIncidents, stage, starts]
    apply ledger.append (by simp [stage]) rfl (by simp) (by simp)
    · intro d
      by_cases same : d = c
      · simp [stage, runs, same, fresh]
      · simp [stage, runs, same, Ne.symm same]
    · intro d
      by_cases same : d = c
      · simp [runs, same, fresh]
      · simp [runs, same, Ne.symm same]
  | abandoned stage all_gone =>
    simp only [coordinatorIncidents, stage, all_gone]
    apply ledger.append <;> simp [stage, threadRuns, join]
  | gathered stage | complete stage | stopped stage | joined stage =>
    simp only [coordinatorIncidents, stage]
    apply ledger.append <;> simp [stage, threadRuns, join]
  | detached stage =>
    have attached := ledger.attached (by simp [stage])
    have going := ledger.going (by simp [stage])
    have ended := arranged.ended.resolve_left (by simp [stage])
    obtain ⟨orderly, recorders, threads, binding, session⟩ := ledger
    simp only [stage, coordinatorIncidents] at recorders binding session ⊢
    refine ⟨orderly.concat ⟨attached, going, ?_⟩, ?_, ?_, ?_, ?_⟩
    · intro c
      simpa [ended c] using threads c
    · simpa [threadRuns] using recorders
    · simpa [threadRuns] using threads
    · simp [binding]
    · simpa using session
  | @closed outcome stage =>
    have going := ledger.going (by simp [stage])
    have ended := arranged.ended.resolve_left (by simp [stage])
    obtain ⟨orderly, recorders, threads, binding, session⟩ := ledger
    obtain ⟨⟨result, finished⟩, workers⟩ := s.stopSession_finished outcome
    have dropped : .bindingDropped ∈ h := by
      rw [← List.count_pos_iff, binding, stage]
      simp
    simp only [stage, coordinatorIncidents] at recorders binding session ⊢
    refine ⟨orderly.concat ⟨dropped, going, ?_⟩, ?_, ?_, ?_, ?_⟩
    · intro c
      simpa [ended c] using recorders c
    · simpa [threadRuns, workers, finished] using recorders
    · simpa [threadRuns, workers] using threads
    · simpa [finished] using binding
    · simp [session, finished]
  | waited waits =>
    rw [waits.coordinatorIncidents, List.append_nil]
    exact ledger

theorem Ledger.work (ledger : Ledger h s) (arranged : s.Arranged) {c : Channel}
    (worked : s.work? c = some s') : Ledger (h ++ s.incidents (.work c)) s' := by
  obtain ⟨runs, others⟩ := threadRuns_work worked
  have stays : s'.stage = s.stage := by
    obtain ⟨w, w', batch?, ns, -, -, same⟩ := work?_eq_some worked
    rw [same]
  have same (d : Channel) (other : d ≠ c) : s'.threadRuns d = s.threadRuns d := by
    simp only [threadRuns, others d other]
  have attached : s.stage.detached = false := by
    have running := arranged.not_joined runs
    cases stage : s.stage <;> simp_all
  have still_attached : s'.stage.detached = false := by rw [stays, attached]
  simp only [incidents, step_of_worked worked, runs]
  cases still : s'.threadRuns c with
  | true =>
    have unchanged (d : Channel) : s'.threadRuns d = s.threadRuns d := by
      by_cases here : d = c
      · rw [here, still, runs]
      · exact same d here
    apply ledger.append attached still_attached <;> simp [stays, unchanged]
  | false =>
    apply ledger.append attached still_attached (by simp) (by simp)
    · intro d
      by_cases here : d = c
      · simp [stays, here, runs, still, Nat.add_comm]
      · simp [stays, same d here, Ne.symm here]
    · intro d
      by_cases here : d = c
      · simp [here, runs, still]
      · simp [same d here, Ne.symm here]

theorem Ledger.step (ledger : Ledger h s) (arranged : s.Arranged) (a : Action) :
    Ledger (h ++ s.incidents a) (s.step a) := by
  cases a with
  | coordinate => exact ledger.coordinate arranged
  | work c =>
    cases worked : s.work? c with
    | none =>
      have nothing : s.incidents (.work c) = [] := by simp [incidents, step_of_stuck worked]
      rw [step_of_stuck worked, nothing, List.append_nil]
      exact ledger
    | some s' =>
      rw [step_of_worked worked]
      exact ledger.work arranged worked
  | write =>
    rw [incidents, List.append_nil]
    cases written : s.write? with
    | none => rwa [step_of_write?_none written]
    | some s' =>
      rw [step_of_write? written]
      obtain ⟨t, -, rfl⟩ := Option.map_eq_some_iff.mp written
      obtain ⟨orderly, recorders, threads, binding, session⟩ := ledger
      exact ⟨orderly, recorders, threads, binding, session⟩
  | raise =>
    obtain ⟨orderly, recorders, threads, binding, session⟩ := ledger
    rw [incidents, List.append_nil]
    exact ⟨orderly, recorders, threads, binding, session⟩

theorem Ledger.run (ledger : Ledger h s) (arranged : s.Arranged) (actions : List Action) :
    Ledger (h ++ s.history actions) (s.run actions) ∧ (s.run actions).Arranged := by
  induction actions generalizing h s with
  | nil =>
    rw [history, List.append_nil]
    exact ⟨ledger, arranged⟩
  | cons a rest ih =>
    rw [history, ← List.append_assoc]
    exact ih (ledger.step arranged a) (arranged.step a)

theorem Arranged.toNat_recorderAlive (arranged : s.Arranged) (c : Channel) :
    (s.recorderAlive c).toNat = s.stage.unstarted.count c + (s.threadRuns c).toNat := by
  have part : s.stage.unstarted.Sublist s.stage.pending := by cases s.stage <;> simp
  have once : s.stage.unstarted.Nodup := arranged.distinct.sublist part
  cases here : s.workers.get c with
  | none =>
    have alive : s.recorderAlive c = s.stage.unstarted.contains c := by
      cases stage : s.stage <;> simp [recorderAlive, here, stage]
    rw [alive, threadRuns_of_none here]
    by_cases member : c ∈ s.stage.unstarted
    · simp only [List.contains_eq_mem, member, List.count_eq_one_of_mem once member]
      rfl
    · simp only [List.contains_eq_mem, member, List.count_eq_zero.mpr member]
      rfl
  | some w =>
    have started : c ∉ s.stage.unstarted := by
      intro member
      rw [arranged.threadless c (part.subset member)] at here
      cases here
    rw [List.count_eq_zero.mpr started]
    simp [recorderAlive, threadRuns, here]

def Checked (s : System) : Prop :=
  match s.stage with
  | .acquiring built rest =>
    built ++ rest = Channel.all ∧ ∀ c ∈ built, (s.plan.scripts.get c).unavailable = none
  | .starting rest =>
    ∀ c, (s.plan.scripts.get c).unavailable = none ∧
      (c ∉ rest → (s.plan.scripts.get c).startFailure = none)
  | .watching => s.plan.Ready
  | _ => True

theorem Checked.coordinate {s : System} (checked : s.Checked) : s.coordinate.Checked := by
  have moves := s.moves_coordinate
  generalize s.coordinate = s' at moves ⊢
  simp only [Checked] at checked
  cases moves with
  | @acquired built rest c stage available =>
    rw [stage] at checked
    obtain ⟨whole, there⟩ := checked
    refine ⟨by rw [List.append_assoc]; exact whole, ?_⟩
    intro d member
    rcases List.mem_append.mp member with before | here
    · exact there d before
    · obtain rfl : d = c := List.mem_singleton.mp here
      exact available
  | gathered stage =>
    rw [stage] at checked
    obtain ⟨whole, there⟩ := checked
    rw [List.append_nil] at whole
    subst whole
    exact fun c => ⟨there c c.mem_all, fun pending => absurd c.mem_all pending⟩
  | @started rest c stage starts =>
    rw [stage] at checked
    intro d
    refine ⟨(checked d).1, fun others => ?_⟩
    by_cases same : d = c
    · subst same
      exact starts
    · refine (checked d).2 ?_
      rw [List.mem_cons]
      exact not_or.mpr ⟨same, others⟩
  | complete stage =>
    rw [stage] at checked
    exact fun c => ⟨(checked c).1, (checked c).2 List.not_mem_nil⟩
  | closed =>
    simp only [stopSession]
    split <;> trivial
  | waited => exact checked
  | _ => trivial

theorem coordinate_plan (s : System) : s.coordinate.plan = s.plan := by
  have moves := s.moves_coordinate
  generalize s.coordinate = s' at moves ⊢
  cases moves with
  | closed =>
    simp only [stopSession]
    split <;> rfl
  | _ => rfl

theorem Checked.step {s : System} (checked : s.Checked) (a : Action) :
    (s.step a).Checked ∧ (s.step a).plan = s.plan := by
  cases a with
  | coordinate => exact ⟨checked.coordinate, s.coordinate_plan⟩
  | work c =>
    cases worked : s.work? c with
    | none =>
      rw [step_of_stuck worked]
      exact ⟨checked, rfl⟩
    | some s' =>
      rw [step_of_worked worked]
      obtain ⟨w, w', batch?, ns, -, -, same⟩ := work?_eq_some worked
      rw [same]
      exact ⟨checked, rfl⟩
  | write =>
    cases written : s.write? with
    | none =>
      rw [step_of_write?_none written]
      exact ⟨checked, rfl⟩
    | some s' =>
      rw [step_of_write? written]
      obtain ⟨t, -, rfl⟩ := Option.map_eq_some_iff.mp written
      exact ⟨checked, rfl⟩
  | raise => exact ⟨checked, rfl⟩

theorem Checked.run {s : System} (checked : s.Checked) (actions : List Action) :
    (s.run actions).Checked ∧ (s.run actions).plan = s.plan := by
  induction actions generalizing s with
  | nil => exact ⟨checked, rfl⟩
  | cons a rest ih =>
    obtain ⟨checked, plan_eq⟩ := checked.step a
    obtain ⟨later, still⟩ := ih checked
    exact ⟨later, still.trans plan_eq⟩

theorem finishes (s : System) (told : s.Told) (checked : s.Checked) :
    ∃ more result, (s.run more).stage = .finished result ∧
      (Action.raise ∈ more → s.raised = false ∧ s.plan.Ready) := by
  have far (t : System) : t.stage.rank ≤ t.stage.rank := Nat.le_refl _
  obtain ⟨actions, calm, ran⟩ := rounds_proceeds s.stage.rank s
  rcases told.rounds_end (Or.inr (far s)) with awaits | rank
  · obtain ⟨after, plan_eq⟩ := checked.run actions
    rw [ran] at after plan_eq
    have ready : s.plan.Ready := by
      rw [← plan_eq]
      simpa only [Checked, awaits.watching] using after
    have lowered : s.raised = false := by
      rw [Bool.eq_false_iff]
      intro raised
      have still := rounds_raised raised s.stage.rank
      rw [awaits.lowered] at still
      cases still
    let flagged := s.step .raise
    obtain ⟨actions, -, ran⟩ := rounds_proceeds flagged.stage.rank flagged
    obtain ⟨result, finished⟩ :=
      finished_of_rank rfl (rounds_end_of_raised (s := flagged) rfl (far flagged))
    rw [← ran] at finished
    exact ⟨.raise :: actions, result, finished, fun _ => ⟨lowered, ready⟩⟩
  · obtain ⟨result, finished⟩ := finished_of_rank rfl rank
    rw [← ran] at finished
    exact ⟨actions, result, finished, fun raise => absurd raise calm⟩

/-- Whatever fails, whenever the flag goes up and in whatever order the steps are taken: the binding is
dropped once, when no thread runs and before the session is stopped, and then no recorder is left. -/
theorem lifecycle_orderly (plan : Plan) (session : Session) (raised : Bool) (actions : List Action) :
    let s := initial plan session raised
    let history := s.history actions
    Orderly history ∧
      history.count .bindingDropped ≤ 1 ∧
      (∀ result, (s.run actions).stage = .finished result →
        history.count .bindingDropped = 1 ∧ history.count .sessionStopped = 1) ∧
      history.count .bindingDropped = (s.run actions).bindingDrops ∧
      history.count .sessionStopped = (s.run actions).sink.isSome.toNat ∧
      (∀ c,
        history.count (.recorderMade c) =
          history.count (.recorderDropped c) + ((s.run actions).recorderAlive c).toNat ∧
        history.count (.threadStarted c) =
          history.count (.threadEnded c) + ((s.run actions).threadRuns c).toNat) ∧
      ∃ more result, (s.run (actions ++ more)).stage = .finished result ∧
        (Action.raise ∈ more → (s.run actions).raised = false ∧ plan.Ready) := by
  intro s history
  obtain ⟨ledger, arranged⟩ := (initial_ledger plan session raised).run
    (initial_arranged plan session raised) actions
  rw [List.nil_append] at ledger
  refine ⟨ledger.orderly, ?_, ?_, ledger.binding.trans arranged.drops.symm, ?_, ?_, ?_⟩
  · exact ledger.binding.trans_le (Bool.toNat_le _)
  · intro result finished
    have binding := ledger.binding
    have session := ledger.session
    rw [finished] at binding session
    exact ⟨binding, session⟩
  · rw [arranged.sink]
    exact ledger.session
  · intro c
    refine ⟨?_, ledger.threads c⟩
    rw [arranged.toNat_recorderAlive c, ← Nat.add_assoc]
    exact ledger.recorders c
  · have told : s.Told := trivial
    have checked : s.Checked := ⟨rfl, fun c member => absurd member List.not_mem_nil⟩
    obtain ⟨checked, plan_eq⟩ := checked.run actions
    obtain ⟨more, result, finished, needed⟩ := (s.run actions).finishes (told.run actions) checked
    rw [← run_append] at finished
    rw [plan_eq] at needed
    exact ⟨more, result, finished, needed⟩

-- The second of the threads does not start, and the first one still runs.
def halfStarted : Plan where
  setup := ⟨.every, .empty, .empty⟩
  scripts := .ofFn fun
    | .taskPelt => { ChannelScript.idle with startFailure := some "no more threads" }
    | _ => .idle

theorem half_started_orderly :
    ∃ session, Session.start (.create .unlimited .json) 1 = .ok session ∧
      let s := initial halfStarted session false
      let begun := List.replicate 10 Action.coordinate
      s.history begun =
          Channel.all.map .recorderMade ++ [.threadStarted .rqPelt, .recorderDropped .taskPelt] ∧
        (s.run begun).threadRuns .rqPelt = true ∧
        ∃ more result, (s.run (begun ++ more)).stage = .finished result ∧ Action.raise ∉ more ∧
          (s.history (begun ++ more)).count .bindingDropped = 1 ∧ Orderly (s.history (begun ++ more)) := by
  obtain ⟨w, -, started⟩ := Session.start_unlimited .json 1
  refine ⟨_, started, ?_⟩
  intro s begun
  obtain ⟨-, -, -, -, -, -, more, result, finished, needed⟩ :=
    lifecycle_orderly halfStarted ⟨w, 1, [], []⟩ false begun
  obtain ⟨orderly, -, ended, -⟩ :=
    lifecycle_orderly halfStarted ⟨w, 1, [], []⟩ false (begun ++ more)
  have unraised : Action.raise ∉ more := by
    intro raise
    have starts := ((needed raise).2 .taskPelt).2
    cases starts
  exact ⟨by cbv, by cbv, more, result, finished, unraised, (ended result finished).1, orderly⟩

end System

end SchedTelemetry
