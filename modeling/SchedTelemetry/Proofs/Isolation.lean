import SchedTelemetry.Proofs.DropNotices
import SchedTelemetry.Proofs.Overrun

set_option autoImplicit false

namespace SchedTelemetry

namespace Plan

def reports (plan : Plan) : List WorkerReport :=
  Channel.all.filterMap (fun c => (plan.scripts.get c).report? c)

end Plan

theorem Plan.find?_reports (plan : Plan) (c : Channel) :
    plan.reports.find? (fun entry => entry.channel = c) = (plan.scripts.get c).report? c := by
  have own (d : Channel) :
      ((plan.scripts.get d).report? d).any (fun entry => entry.channel = c) =
        (decide (d = c) && ((plan.scripts.get c).report? c).isSome) := by
    cases reported : (plan.scripts.get d).report? d with
    | none =>
      by_cases same : d = c
      · subst same
        simp [reported]
      · simp [same]
    | some entry =>
      have channel := (ChannelScript.report?_some reported).1
      by_cases same : d = c
      · subst same
        simp [reported, channel]
      · simp [same, channel]
  have chosen (listed : Bool) : Channel.all.find? (fun d => decide (d = c) && listed) =
      if listed then some c else none := by
    cases c <;> cases listed <;> rfl
  rw [Plan.reports, List.find?_filterMap]
  simp only [own, chosen]
  cases reported : (plan.scripts.get c).report? c with
  | none => rfl
  | some entry => exact reported

def CollectionReport.entry? (r : CollectionReport) (c : Channel) : Option WorkerReport :=
  r.workers.find? (fun entry => entry.channel = c)

namespace System

def forecast (s : System) (c : Channel) : Option WorkerReport :=
  match s.workers.get c with
  | none => (s.plan.scripts.get c).report? c
  | some w => w.forecast

theorem forecast_of_get {s : System} {c : Channel} {w : Worker} (here : s.workers.get c = some w) :
    s.forecast c = w.forecast := by
  rw [forecast, here]

theorem resting_of_get {s : System} {c : Channel} {w : Worker} (resting : s.Resting)
    (here : s.workers.get c = some w) : w.Resting := by
  have there := resting c
  rwa [here] at there

def Tells (s : System) (reports : List WorkerReport) : Prop :=
  match s.stage with
  | .detaching (.ok workers) => workers = reports
  | .stopping (.ok workers) => workers = reports
  | .finished (.ok report) => report.workers = reports
  | _ => True

structure Accounted (s : System) (plan : Plan) : Prop where
  forecasts : ∀ c, s.forecast c = (plan.scripts.get c).report? c
  rested : s.raised = true → s.Resting
  tells : s.Tells plan.reports

variable {plan : Plan} {format : TraceFormat} {limit : Option Nat} {s s' : System}

theorem initial_accounted (plan : Plan) (session : Session) :
    (initial plan session false).Accounted plan := by
  refine ⟨?_, nofun, trivial⟩
  intro c
  have no_worker : (initial plan session false).workers.get c = none := PerChannel.get_ofFn _ c
  rw [forecast, no_worker]
  rfl

theorem Accounted.frame (accounted : s.Accounted plan)
    (same : s'.plan = s.plan ∧ s'.workers = s.workers)
    (rested : s'.raised = true → s.Resting) (tells : s'.Tells plan.reports) :
    s'.Accounted plan := by
  obtain ⟨plan_eq, workers⟩ := same
  refine ⟨?_, ?_, tells⟩
  · intro c
    rw [forecast, workers, plan_eq]
    exact accounted.forecasts c
  · intro raised
    rw [Resting, workers, plan_eq]
    exact rested raised

theorem AllOver.resting (all_over : s.AllOver) : s.Resting := by
  intro c
  obtain ⟨w, here, gone⟩ := all_over c
  rw [here]
  exact (Worker.isGone_iff.mp gone).2.resting

theorem Accounted.reports_eq (accounted : s.Accounted plan) (all_over : s.AllOver) :
    s.reports = plan.reports := by
  apply List.filterMap_congr
  intro c _
  obtain ⟨w, here, gone⟩ := all_over c
  rw [← accounted.forecasts c, forecast_of_get here, reportOf?, here,
    Worker.forecast_of_isOver (Worker.isGone_iff.mp gone).2]
  rfl

theorem Accounted.work {c : Channel} (accounted : s.Accounted plan) (worked : s.work? c = some s') :
    s'.Accounted plan := by
  obtain ⟨w, w', batch?, ns, here, stepped, same⟩ := work?_eq_some worked
  have foretells : w.Foretells w' :=
    Worker.step?_foretells (fun raised => resting_of_get (accounted.rested raised) here) stepped
  rw [same]
  refine ⟨?_, ?_, accounted.tells⟩
  · intro d
    rw [forecast, PerChannel.get_set]
    by_cases own : d = c
    · subst own
      rw [if_pos rfl, ← accounted.forecasts d, forecast_of_get here]
      exact foretells.forecast_eq
    · rw [if_neg own]
      exact accounted.forecasts d
  · intro raised d
    rw [PerChannel.get_set]
    by_cases own : d = c
    · subst own
      rw [if_pos rfl]
      exact foretells.resting (resting_of_get (accounted.rested raised) here)
    · rw [if_neg own]
      exact accounted.rested raised d

theorem Accounted.startWorker (accounted : s.Accounted plan) {c : Channel} {rest : List Channel}
    (no_worker : s.workers.get c = none) :
    ({ s.startWorker c with stage := .starting rest } : System).Accounted plan := by
  refine ⟨?_, ?_, trivial⟩
  · intro d
    have before := accounted.forecasts d
    show (s.startWorker c).forecast d = _
    rw [← before, forecast, get_startWorker]
    by_cases same : d = c
    · subst same
      rw [if_pos rfl, forecast, no_worker]
      exact Worker.forecast_fresh ..
    · rw [if_neg same]
      rfl
  · intro raised d
    have before := accounted.rested raised d
    show match (s.startWorker c).workers.get d with
      | none => (s.plan.scripts.get d).openFailure ≠ none
      | some w => w.Resting
    rw [get_startWorker]
    by_cases same : d = c
    · subst same
      rw [no_worker] at before
      rw [if_pos rfl]
      exact before
    · rw [if_neg same]
      exact before

theorem Accounted.stopSession (accounted : s.Accounted plan) :
    (s.stopSession (.ok plan.reports)).Accounted plan := by
  simp only [System.stopSession]
  split
  next told _ =>
    cases told
    exact accounted.frame ⟨rfl, rfl⟩ accounted.rested rfl
  next told _ =>
    cases told
    exact accounted.frame ⟨rfl, rfl⟩ accounted.rested rfl
  next told _ => cases told
  next told _ => cases told

theorem Accounted.coordinate (accounted : s.Accounted plan) (sound : s.Sound plan format limit)
    (ready : plan.Ready) : s.coordinate.Accounted plan := by
  have placed {stage : CoordinatorStage} (here : s.stage = stage) := placed_at sound.placed here
  have tells {stage : CoordinatorStage} (here : s.stage = stage) :
      ({ s with stage } : System).Tells plan.reports := by
    subst here
    exact accounted.tells
  have moves := s.moves_coordinate
  generalize s.coordinate = t at moves ⊢
  cases moves with
  | denied | acquired | gathered | complete =>
    exact accounted.frame ⟨rfl, rfl⟩ accounted.rested trivial
  | @unstarted _ c _ _ failure =>
    rw [sound.plan_eq, (ready c).2] at failure
    cases failure
  | @started _ c stage =>
    have no_worker : s.workers.get c = none := ((placed stage).2 c).mpr List.mem_cons_self
    exact accounted.startWorker no_worker
  | abandoned stage => exact absurd (placed stage) id
  | stopped stage done =>
    have started : ∀ c, s.workers.get c ≠ none := placed stage
    refine accounted.frame ⟨rfl, rfl⟩ (fun _ => ?_) trivial
    rcases done with raised | all_gone
    · exact accounted.rested raised
    · exact (allOver_of_allGone all_gone started).resting
  | joined stage all_gone =>
    obtain ⟨started, -⟩ := placed stage
    exact accounted.frame ⟨rfl, rfl⟩ accounted.rested
      (accounted.reports_eq (allOver_of_allGone all_gone started))
  | detached stage =>
    have told := tells stage
    obtain ⟨-, reports, rfl⟩ := placed stage
    exact accounted.frame ⟨rfl, rfl⟩ accounted.rested told
  | closed stage =>
    have told := tells stage
    obtain ⟨-, reports, rfl⟩ := placed stage
    have same : reports = plan.reports := told
    rw [same]
    exact accounted.stopSession
  | waited => exact accounted

theorem Accounted.step (accounted : s.Accounted plan) (sound : s.Sound plan format limit)
    (ready : plan.Ready) {a : Action} (punctual : a = .raise → s.Resting) :
    (s.step a).Accounted plan := by
  cases a with
  | coordinate => exact accounted.coordinate sound ready
  | work c =>
    cases worked : s.work? c with
    | none => rwa [step_of_stuck worked]
    | some s' =>
      rw [step_of_worked worked]
      exact accounted.work worked
  | write =>
    cases written : s.write? with
    | none => rwa [step_of_write?_none written]
    | some s' =>
      rw [step_of_write? written]
      obtain ⟨t, -, rfl⟩ := Option.map_eq_some_iff.mp written
      exact accounted.frame ⟨rfl, rfl⟩ accounted.rested accounted.tells
  | raise => exact accounted.frame ⟨rfl, rfl⟩ (fun _ => punctual rfl) accounted.tells

theorem Accounted.run (accounted : s.Accounted plan) (sound : s.Sound plan format limit)
    (ready : plan.Ready) {actions : List Action} (punctual : s.Punctual actions) :
    (s.run actions).Accounted plan := by
  induction actions generalizing s with
  | nil => exact accounted
  | cons a rest ih =>
    have patient : a = .raise → s.Drained := fun raise => (punctual.1 raise).drained
    exact ih (accounted.step sound ready punctual.1) (sound.step ready patient) punctual.2

/-- The collection has ended with the reports that the scripts give, and its workers have handed over what
they had. The records count when a sink of this limit has room for the trace of them. Otherwise the
coordinator tells of the failure, and a worker of each batch that came too late for the writer. -/
structure Reported (s : System) (plan : Plan) (format : TraceFormat) (limit : Option Nat)
    (report : CollectionReport) : Prop where
  workers : report.workers = plan.reports
  totals : ∀ entry ∈ report.workers,
    entry.tally.total = (plan.scripts.get entry.channel).raws.length
  handed : Interleaves plan.expected s.handed
  written : report.written =
    if Sink.Admits limit (traceBytes format s.handed).length then s.handed.length else 0
  none_lost : Sink.Admits limit (traceBytes format s.handed).length → s.lost = []
  blamed : ¬ Sink.Admits limit (traceBytes format s.handed).length →
    ∃ cause, Notice.traceWriteFailed cause ∈ s.notices
  warned : s.Warned

theorem Accounted.reported (accounted : s.Accounted plan) (sound : s.Sound plan format limit)
    (warned : s.Warned) {result : Except CollectError CollectionReport}
    (finished : s.stage = .finished result) :
    ∃ report, result = .ok report ∧ s.Reported plan format limit report := by
  have ended : s.AllOver ∧ s.Written format limit result := placed_at sound.placed finished
  obtain ⟨all_over, ⟨workers, rfl⟩, -, none_lost, blamed⟩ := ended
  have tells := accounted.tells
  simp only [Tells, finished] at tells
  refine ⟨_, rfl, tells, ?_, sound.interleaves all_over, rfl, none_lost, blamed, warned⟩
  intro entry listed
  have member : entry ∈ plan.reports := tells ▸ listed
  obtain ⟨c, -, reported⟩ := List.mem_filterMap.mp member
  obtain ⟨channel, tally⟩ := ChannelScript.report?_some reported
  rw [tally, channel]
  exact Tally.of_total c _

theorem punctual_run (ready : plan.Ready) (format : TraceFormat) (limit : Option Nat)
    (batchSize : Nat) :
    ∃ session, Session.start (.create ⟨limit, []⟩ format) batchSize = .ok session ∧
      ∀ actions, (initial plan session false).Punctual actions →
        ((initial plan session false).run actions).Sound plan format limit ∧
          ((initial plan session false).run actions).Accounted plan ∧
          ((initial plan session false).run actions).Warned := by
  obtain ⟨w, begun, sink, started⟩ := Session.start_fresh ⟨limit, []⟩ rfl format batchSize
  refine ⟨_, started, ?_⟩
  intro actions punctual
  have within : Sink.Admits w.out.sink.limit w.out.sink.held.length := by
    rw [sink]
    exact Sink.admits_nothing limit
  have sound := initial_sound_of_begun plan ⟨w, max batchSize 1, [], []⟩ begun within rfl
  have limit_eq : w.out.sink.limit = limit := by rw [sink]
  rw [limit_eq] at sound
  exact ⟨sound.run ready punctual.patient, (initial_accounted plan _).run sound ready punctual,
    (initial_warned plan _ false).run sound ready punctual.patient⟩

end System

def Plan.Yields (plan : Plan) (format : TraceFormat) (limit : Option Nat) (batchSize : Nat)
    (result : Except CollectError CollectionReport) : Prop :=
  ∃ session actions, Session.start (.create ⟨limit, []⟩ format) batchSize = .ok session ∧
    (System.initial plan session false).Punctual actions ∧
    ((System.initial plan session false).run actions).stage = .finished result

theorem Plan.Yields.entry?_eq {plan : Plan} (ready : plan.Ready) {format : TraceFormat}
    {limit : Option Nat} {batchSize : Nat} {report : CollectionReport}
    (yields : plan.Yields format limit batchSize (.ok report)) (c : Channel) :
    report.entry? c = (plan.scripts.get c).report? c := by
  obtain ⟨session, actions, started, punctual, finished⟩ := yields
  obtain ⟨session', started', runs⟩ := System.punctual_run ready format limit batchSize
  cases Except.ok.inj (started.symm.trans started')
  obtain ⟨sound, accounted, warned⟩ := runs actions punctual
  obtain ⟨_, ⟨⟩, reported⟩ := accounted.reported sound warned finished
  rw [CollectionReport.entry?, reported.workers]
  exact plan.find?_reports c

namespace System

def untroubled : Plan where
  setup := ⟨.none, .empty, .empty⟩
  scripts := .ofFn fun
    | .freqIdle => troubled.scripts.get .freqIdle
    | _ => .idle

end System

end SchedTelemetry
