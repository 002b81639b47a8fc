import SchedTelemetry.Collector.Run
import SchedTelemetry.Proofs.Accounting
import SchedTelemetry.Proofs.QueuedWriting
import SchedTelemetry.Proofs.Refusal

set_option autoImplicit false

namespace SchedTelemetry

namespace Plan

-- The binding has all channels and all threads can be started.
def Ready (plan : Plan) : Prop :=
  ∀ c, (plan.scripts.get c).unavailable = none ∧ (plan.scripts.get c).startFailure = none

def expected (plan : Plan) (c : Channel) : List Record :=
  (Processor.fresh c plan.setup).emitted (plan.scripts.get c).raws

end Plan

namespace System

def unpolled (s : System) (c : Channel) : List (List UInt8) :=
  match s.workers.get c with
  | none => (s.plan.scripts.get c).raws
  | some w => w.unpolled

def owed (s : System) (c : Channel) : List Record :=
  match s.workers.get c with
  | none => s.plan.expected c
  | some w => w.owed

theorem unpolled_of_get {s : System} {c : Channel} {w : Worker} (here : s.workers.get c = some w) :
    s.unpolled c = w.unpolled := by
  rw [unpolled, here]

theorem owed_of_get {s : System} {c : Channel} {w : Worker} (here : s.workers.get c = some w) :
    s.owed c = w.owed := by
  rw [owed, here]

-- Each channel is idle, or has failed, or panicked, or cannot be opened.
def Drained (s : System) : Prop := ∀ c, s.unpolled c = []

/-- The stop flag goes up from outside only when all channels are drained. -/
def Patient (s : System) : List Action → Prop
  | [] => True
  | a :: rest => (a = .raise → s.Drained) ∧ (s.step a).Patient rest

def Resting (s : System) : Prop :=
  ∀ c, match s.workers.get c with
    | none => (s.plan.scripts.get c).openFailure ≠ none
    | some w => w.Resting

-- The stop flag goes up from outside only when all channels are at rest.
def Punctual (s : System) : List Action → Prop
  | [] => True
  | a :: rest => (a = .raise → s.Resting) ∧ (s.step a).Punctual rest

theorem Resting.drained {s : System} (resting : s.Resting) : s.Drained := by
  intro c
  have here := resting c
  simp only [System.unpolled]
  cases worker : s.workers.get c with
  | none =>
    rw [worker] at here
    obtain ⟨cause, failure⟩ := Option.ne_none_iff_exists'.mp here
    simp [ChannelScript.raws, failure]
  | some w =>
    rw [worker] at here
    exact Worker.Resting.unpolled here

theorem Punctual.patient {s : System} {actions : List Action} (punctual : s.Punctual actions) :
    s.Patient actions := by
  induction actions generalizing s with
  | nil => trivial
  | cons a rest ih => exact ⟨fun raise => (punctual.1 raise).drained, ih punctual.2⟩

def AllOver (s : System) : Prop := ∀ c, ∃ w, s.workers.get c = some w ∧ w.isGone = true

-- Nothing is sent once a batch has been lost, so this is the order in which they are handed over.
def handOvers (s : System) : List (Channel × Batch) := s.sent ++ s.lost

def handed (s : System) : List Record := s.handOvers.flatMap (·.2)

/-- Until the trace is closed the writer is on its way through the records handed over, or it has failed
on the way. -/
def Follows (s : System) : Prop :=
  s.writer.pass = s.session.writer.writeAll s.handed ∧
    match s.writer with
    | .running _ _ _ => s.lost = []
    | .ended trace => trace.failure ≠ none

/-- The trace went to a sink of this limit. Its records count only when the sink has room for it, and then
none of them is lost. If it has not, the coordinator says so. -/
def Written (s : System) (format : TraceFormat) (limit : Option Nat)
    (result : Except CollectError CollectionReport) : Prop :=
  (∃ reports,
    result =
      .ok ⟨reports, if Sink.Admits limit (traceBytes format s.handed).length then s.handed.length else 0⟩) ∧
    (∃ sink, s.sink = some sink ∧
      (Sink.Admits limit (traceBytes format s.handed).length → sink.held = traceBytes format s.handed)) ∧
    (Sink.Admits limit (traceBytes format s.handed).length → s.lost = []) ∧
    (¬ Sink.Admits limit (traceBytes format s.handed).length →
      ∃ cause, Notice.traceWriteFailed cause ∈ s.notices)

def Placed (s : System) (format : TraceFormat) (limit : Option Nat) : Prop :=
  match s.stage with
  | .acquiring built rest => built ++ rest = Channel.all ∧ ∀ c, s.workers.get c = none
  | .starting rest => rest.Nodup ∧ ∀ c, s.workers.get c = none ↔ c ∈ rest
  | .abandoning _ _ => False
  | .watching => ∀ c, s.workers.get c ≠ none
  | .joining => (∀ c, s.workers.get c ≠ none) ∧ s.raised = true
  | .detaching outcome => s.AllOver ∧ ∃ reports, outcome = .ok reports
  | .stopping outcome => s.AllOver ∧ ∃ reports, outcome = .ok reports
  | .finished result => s.AllOver ∧ s.Written format limit result

structure Sound (s : System) (plan : Plan) (format : TraceFormat) (limit : Option Nat) : Prop where
  plan_eq : s.plan = plan
  begun : s.session.writer.Begun format
  limit_eq : s.session.writer.out.sink.limit = limit
  within : Sink.Admits limit s.session.writer.out.sink.held.length
  unsent : s.session.sent = []
  placed : s.Placed format limit
  follows : s.stage.closed = false → s.Follows
  handsOver : ∀ c w, s.workers.get c = some w → w.handsOver
  conserves : ∀ c, through c (unbatched s.handOvers) ++ s.owed c = plan.expected c
  drained : s.raised = true → s.Drained

variable {plan : Plan} {format : TraceFormat} {limit : Option Nat}

theorem initial_sound_of_begun (plan : Plan) (session : Session)
    (begun : session.writer.Begun format)
    (within : Sink.Admits session.writer.out.sink.limit session.writer.out.sink.held.length)
    (unsent : session.sent = []) :
    (initial plan session false).Sound plan format session.writer.out.sink.limit := by
  have no_worker (c : Channel) : (initial plan session false).workers.get c = none :=
    PerChannel.get_ofFn _ c
  refine ⟨rfl, begun, rfl, within, unsent, ⟨rfl, no_worker⟩, ?_, ?_, ?_, nofun⟩
  · intro _
    refine ⟨?_, rfl⟩
    simp [initial, WriterThread.pass, unsent, handed, handOvers]
  · intro c w here
    rw [no_worker] at here
    cases here
  · intro c
    rw [owed, no_worker]
    rfl

theorem initial_sound (plan : Plan) (session : Session) (opened : session.writer.Opened format)
    (unsent : session.sent = []) : (initial plan session false).Sound plan format none := by
  have sound := initial_sound_of_begun plan session opened.toBegun (opened.never.admits _) unsent
  have never : session.writer.out.sink.limit = none := opened.never
  rwa [never] at sound

theorem Sound.frame {s s' : System} (sound : s.Sound plan format limit)
    (same : s'.plan = s.plan ∧ s'.session = s.session ∧ s'.workers = s.workers ∧
      s'.handOvers = s.handOvers)
    (follows : s'.stage.closed = false → s'.Follows)
    (drained : s'.raised = true → s.Drained) (placed : s'.Placed format limit) :
    s'.Sound plan format limit := by
  obtain ⟨plan_eq, session, workers, handOvers⟩ := same
  have unpolled (c : Channel) : s'.unpolled c = s.unpolled c := by
    rw [System.unpolled, System.unpolled, workers, plan_eq]
  have owed (c : Channel) : s'.owed c = s.owed c := by
    rw [System.owed, System.owed, workers, plan_eq]
  refine ⟨plan_eq.trans sound.plan_eq, ?_, ?_, ?_, ?_, placed, follows, ?_, ?_, ?_⟩
  · rw [session]
    exact sound.begun
  · rw [session]
    exact sound.limit_eq
  · rw [session]
    exact sound.within
  · rw [session]
    exact sound.unsent
  · rw [workers]
    exact sound.handsOver
  · intro c
    rw [handOvers, owed]
    exact sound.conserves c
  · intro raised c
    rw [unpolled]
    exact drained raised c

theorem AllOver.drained {s : System} (all_over : s.AllOver) : s.Drained := by
  intro c
  obtain ⟨w, here, gone⟩ := all_over c
  rw [unpolled_of_get here]
  exact (Worker.isGone_iff.mp gone).2.unpolled

theorem allGone_iff {s : System} :
    s.allGone = true ↔ ∀ c w, s.workers.get c = some w → w.isGone = true := by
  simp [allGone, Option.all_eq_true, Channel.mem_all]

theorem allOver_of_allGone {s : System} (all_gone : s.allGone = true)
    (started : ∀ c, s.workers.get c ≠ none) : s.AllOver := by
  intro c
  obtain ⟨w, here⟩ := Option.ne_none_iff_exists'.mp (started c)
  exact ⟨w, here, allGone_iff.mp all_gone c w here⟩

theorem Sound.sent_eq {s : System} (sound : s.Sound plan format limit) (all_over : s.AllOver) (c : Channel) :
    through c (unbatched s.handOvers) = plan.expected c := by
  obtain ⟨w, here, gone⟩ := all_over c
  have conserves := sound.conserves c
  rw [owed_of_get here] at conserves
  rw [← conserves, Worker.owed_of_isGone gone (sound.handsOver c w here), List.append_nil]

theorem Sound.interleaves {s : System} (sound : s.Sound plan format limit) (all_over : s.AllOver) :
    Interleaves plan.expected s.handed :=
  ⟨unbatched s.handOvers, unbatched_records s.handOvers, sound.sent_eq all_over⟩

section work

variable {s s' : System} {c : Channel}

def Stuck (s : System) (c : Channel) : Prop :=
  ∀ w, s.workers.get c = some w → w.step? s.raised = none

theorem Stuck.work? (stuck : s.Stuck c) : s.work? c = none := by
  simp only [System.work?]
  split
  next => rfl
  next w here => rw [stuck w here]

theorem AllOver.stuck (all_over : s.AllOver) (c : Channel) : s.Stuck c := by
  obtain ⟨w, here, gone⟩ := all_over c
  rw [Stuck, here]
  rintro _ ⟨⟩
  exact Worker.step?_of_isGone gone _

theorem none_of_work? (worked : s.work? c = some s') (d : Channel) :
    s'.workers.get d = none ↔ s.workers.get d = none := by
  obtain ⟨w, w', batch?, ns, here, -, same⟩ := work?_eq_some worked
  rw [same, PerChannel.get_set]
  by_cases same : d = c
  · simp [same, here]
  · rw [if_neg same]

theorem Placed.work (placed : s.Placed format limit) (worked : s.work? c = some s') :
    s'.Placed format limit := by
  have stays := none_of_work? worked
  have not_over : ¬ s.AllOver := by
    intro all_over
    rw [(all_over.stuck c).work?] at worked
    cases worked
  have frame : s'.stage = s.stage ∧ s'.raised = s.raised := by
    obtain ⟨w, w', batch?, ns, -, -, same⟩ := work?_eq_some worked
    rw [same]
    exact ⟨rfl, rfl⟩
  simp only [Placed] at placed ⊢
  rw [frame.1, frame.2]
  cases stage : s.stage with
  | acquiring built rest =>
    rw [stage] at placed
    exact ⟨placed.1, fun d => (stays d).mpr (placed.2 d)⟩
  | starting rest =>
    rw [stage] at placed
    exact ⟨placed.1, fun d => (stays d).trans (placed.2 d)⟩
  | abandoning e unstarted =>
    rw [stage] at placed
    exact placed
  | watching =>
    rw [stage] at placed
    exact fun d => mt (stays d).mp (placed d)
  | joining =>
    rw [stage] at placed
    exact ⟨fun d => mt (stays d).mp (placed.1 d), placed.2⟩
  | detaching outcome | stopping outcome | finished result =>
    rw [stage] at placed
    exact absurd placed.1 not_over

theorem Placed.running (placed : s.Placed format limit) (worked : s.work? c = some s') :
    s.stage.closed = false := by
  cases stage : s.stage with
  | finished result =>
    simp only [Placed, stage] at placed
    rw [(placed.1.stuck c).work?] at worked
    cases worked
  | _ => rfl

theorem handed_behind {b : Batch} (behind : s'.handOvers = s.handOvers ++ [(c, b)]) :
    s'.handed = s.handed ++ b := by
  simp [handed, behind]

theorem Follows.work (follows : s.Follows) (worked : s.work? c = some s') {w w' : Worker}
    {batch? : Option Batch} (here : s.workers.get c = some w)
    (stepped : w.step? s.raised = some (w', batch?)) :
    s'.Follows ∧ s'.handOvers = s.handOvers ++ batch?.toList.map (fun b => (c, b)) := by
  obtain ⟨pass, state⟩ := follows
  cases works_of_work? worked with
  | advanced here' stepped' =>
    cases here.symm.trans here'
    cases stepped.symm.trans stepped'
    exact ⟨⟨pass, state⟩, (List.append_nil _).symm⟩
  | @sent _ _ b t inHand queue here' stepped' running =>
    cases here.symm.trans here'
    cases stepped.symm.trans stepped'
    rw [running] at pass state
    have behind : ((s.setWorker c w').sends c b (.running t inHand (queue ++ [b]))).handOvers =
        s.handOvers ++ [(c, b)] := by
      simp [handOvers, sends, setWorker, state]
    refine ⟨⟨?_, state⟩, behind⟩
    rw [handed_behind behind, TraceWriter.writeAll_append]
    show WriterThread.pass (.running t inHand (queue ++ [b])) = _
    rw [WriterThread.pass_enqueued, pass]
    rfl
  | @dropped _ _ b trace here' stepped' ended =>
    cases here.symm.trans here'
    cases stepped.symm.trans stepped'
    have behind : ((s.setWorker c (w'.say [.recordsDropped])).loses c b).handOvers =
        s.handOvers ++ [(c, b)] := by
      simp [handOvers, loses, setWorker]
    rw [ended] at state
    refine ⟨⟨?_, ?_⟩, behind⟩
    · rw [handed_behind behind, TraceWriter.writeAll_append]
      show s.writer.pass = (s.session.writer.writeAll s.handed).andThen _
      rw [← pass, ended]
      exact (Attempt.andThen_of_failure state _).symm
    · show match s.writer with
        | .running _ _ _ => s.lost ++ [(c, b)] = []
        | .ended trace => trace.failure ≠ none
      rw [ended]
      exact state

theorem Follows.write (follows : s.Follows) {t : WriterThread} (steps : s.writer.Steps t) :
    ({ s with writer := t } : System).Follows := by
  obtain ⟨pass, state⟩ := follows
  refine ⟨steps.pass_eq.trans pass, ?_⟩
  generalize s.writer = before at steps state
  cases steps with
  | received | wrote => exact state
  | failed => exact nofun

theorem Sound.work (sound : s.Sound plan format limit) (worked : s.work? c = some s') :
    s'.Sound plan format limit := by
  have placed := sound.placed.work worked
  obtain ⟨w, w', batch?, ns, here, stepped, same⟩ := work?_eq_some worked
  have keeps : w.Keeps (batch?.getD []) w' := by
    refine Worker.step?_keeps ?_ stepped
    intro raised
    rw [← unpolled_of_get here]
    exact sound.drained raised c
  obtain ⟨follows, handOvers⟩ := (sound.follows (sound.placed.running worked)).work worked here stepped
  rw [same] at placed follows handOvers ⊢
  refine ⟨sound.plan_eq, sound.begun, sound.limit_eq, sound.within, sound.unsent, placed,
    fun _ => follows, ?_, ?_, ?_⟩
  · intro d v there
    rw [PerChannel.get_set] at there
    split at there
    · cases there
      exact keeps.handsOver (sound.handsOver c w here)
    · exact sound.handsOver d v there
  · intro d
    have before := sound.conserves d
    rw [handOvers, unbatched_append, through_append, unbatched_tagged, through_tagged, System.owed,
      PerChannel.get_set]
    have one : batch?.toList.flatten = batch?.getD [] := by cases batch? <;> simp
    -- What the worker hands over goes from the records owed to the records handed over.
    by_cases own : c = d
    · subst own
      rw [owed_of_get here, ← keeps.owed_eq, ← List.append_assoc] at before
      rw [if_pos rfl, if_pos rfl, one]
      exact before
    · rw [if_neg own, if_neg (Ne.symm own), List.append_nil]
      exact before
  · intro raised d
    have before := sound.drained raised d
    rw [System.unpolled, PerChannel.get_set]
    by_cases own : d = c
    · subst own
      rw [if_pos rfl]
      exact keeps.unpolled ((unpolled_of_get here).symm.trans before)
    · rw [if_neg own]
      exact before

end work

theorem placed_at {s : System} {stage : CoordinatorStage} (placed : s.Placed format limit)
    (here : s.stage = stage) : ({ s with stage } : System).Placed format limit := by
  subst here
  exact placed

theorem get_startWorker (s : System) (c d : Channel) :
    (s.startWorker c).workers.get d =
      if d = c then some (.fresh c (s.plan.scripts.get c) s.plan.setup s.session.batchSize)
      else s.workers.get d :=
  PerChannel.get_set ..

theorem Sound.startWorker {s : System} (sound : s.Sound plan format limit) {c : Channel}
    {rest : List Channel} (stage : s.stage = .starting (c :: rest)) :
    ({ s.startWorker c with stage := .starting rest } : System).Sound plan format limit := by
  obtain ⟨once, unstarted⟩ := placed_at sound.placed stage
  obtain ⟨not_again, rest_once⟩ := List.nodup_cons.mp once
  have no_worker : s.workers.get c = none := (unstarted c).mpr List.mem_cons_self
  have follows : s.Follows := sound.follows (by simp [stage])
  refine ⟨sound.plan_eq, sound.begun, sound.limit_eq, sound.within, sound.unsent, ⟨rest_once, ?_⟩,
    fun _ => follows, ?_, ?_, ?_⟩
  · intro d
    show (s.startWorker c).workers.get d = none ↔ d ∈ rest
    rw [get_startWorker]
    by_cases same : d = c
    · simp [same, not_again]
    · rw [if_neg same, unstarted, List.mem_cons, or_iff_right same]
  · intro d w here
    replace here : (s.startWorker c).workers.get d = some w := here
    rw [get_startWorker] at here
    split at here
    · cases here
      exact fun _ => rfl
    · exact sound.handsOver d w here
  · intro d
    have before := sound.conserves d
    have same_owed : (s.startWorker c).owed d = s.owed d := by
      simp only [owed]
      rw [get_startWorker]
      by_cases same : d = c
      · rw [if_pos same, same, no_worker]
        exact Worker.owed_fresh ..
      · rw [if_neg same]
        rfl
    show through d (unbatched s.handOvers) ++ (s.startWorker c).owed d = _
    rw [same_owed, before]
  · intro raised d
    have before := sound.drained raised d
    have same_unpolled : (s.startWorker c).unpolled d = s.unpolled d := by
      simp only [unpolled]
      rw [get_startWorker]
      by_cases same : d = c
      · rw [if_pos same, same, no_worker]
        rfl
      · rw [if_neg same]
        rfl
    exact same_unpolled.trans before

def asSession (s : System) : Session :=
  -- A channel's recorder has the channel's place in the order as its number.
  { s.session with sent := s.handOvers.map (fun (c, b) => (Channel.all.idxOf c, b)) }

theorem asSession_records (s : System) : s.asSession.sent.flatMap (·.2) = s.handed := by
  simp [asSession, handed, List.flatMap_map]

theorem Follows.finish_eq {s : System} (follows : s.Follows) :
    s.writer.finish = (s.session.writer.writeAll s.handed).andThen TraceWriter.close := by
  obtain ⟨pass, state⟩ := follows
  rw [← pass]
  cases writer : s.writer with
  | running w inHand queue => exact WriterThread.finish_running w inHand queue
  | ended trace =>
    rw [writer] at state
    exact (Attempt.andThen_of_failure state _).symm

theorem Follows.stopped_eq {s : System} (follows : s.Follows) :
    Session.Stopped.of s.writer.finish = s.asSession.stop := by
  rw [follows.finish_eq, Session.stop, Session.drain_eq, ← List.flatMap_def, asSession_records]
  rfl

theorem Follows.lost_eq {s : System} (follows : s.Follows) {n : Nat}
    (counted : s.asSession.stop.result = .ok n) : s.lost = [] := by
  rw [← follows.stopped_eq] at counted
  obtain ⟨-, state⟩ := follows
  cases writer : s.writer with
  | running w inHand queue =>
    rw [writer] at state
    exact state
  | ended trace =>
    rw [writer] at state counted
    obtain ⟨e, failure⟩ := Option.ne_none_iff_exists'.mp state
    simp [WriterThread.finish, Session.Stopped.of, failure] at counted

theorem Sound.stopSession {s : System} (sound : s.Sound plan format limit)
    (going : s.stage.closed = false) (all_over : s.AllOver) (reports : List WorkerReport) :
    (s.stopSession (.ok reports)).Sound plan format limit := by
  have follows := sound.follows going
  have sink_limit : s.asSession.writer.out.sink.limit = limit := sound.limit_eq
  have stopped := follows.stopped_eq
  by_cases room : Sink.Admits limit (traceBytes format s.handed).length
  · have room' := room
    rw [← s.asSession_records, ← sink_limit] at room'
    obtain ⟨counted, held⟩ := Session.stop_of_room (s := s.asSession) sound.begun room'
    have none_lost := follows.lost_eq counted
    rw [asSession_records] at counted held
    simp only [System.stopSession, stopped, counted]
    refine sound.frame ⟨rfl, rfl, rfl, rfl⟩ nofun sound.drained
      ⟨all_over, ⟨reports, ?_⟩, ⟨_, rfl, fun _ => held⟩, fun _ => none_lost,
        fun tight => absurd room tight⟩
    exact congrArg (fun n => Except.ok (CollectionReport.mk reports n)) (if_pos room).symm
  · have tight := room
    rw [← s.asSession_records, ← sink_limit] at tight
    have within : Sink.Admits s.asSession.writer.out.sink.limit
        s.asSession.writer.out.sink.held.length := by
      rw [sink_limit]
      exact sound.within
    obtain ⟨e, refused⟩ := Session.stop_fails (s := s.asSession) sound.begun within tight
    simp only [System.stopSession, stopped, refused]
    refine sound.frame ⟨rfl, rfl, rfl, rfl⟩ nofun sound.drained
      ⟨all_over, ⟨reports, ?_⟩, ⟨_, rfl, fun admits => absurd admits room⟩,
        fun admits => absurd admits room, fun _ => ⟨e.message, by simp [say]⟩⟩
    exact congrArg (fun n => Except.ok (CollectionReport.mk reports n)) (if_neg room).symm

theorem Sound.coordinate {s : System} (sound : s.Sound plan format limit) (ready : plan.Ready) :
    s.coordinate.Sound plan format limit := by
  have placed {stage : CoordinatorStage} (here : s.stage = stage) := placed_at sound.placed here
  have follows {stage : CoordinatorStage} (here : s.stage = stage) (going : stage.closed = false) :
      s.Follows := by
    subst here
    exact sound.follows going
  have moves := s.moves_coordinate
  generalize s.coordinate = t at moves ⊢
  cases moves with
  | @denied _ _ c _ _ unavailable =>
    rw [sound.plan_eq, (ready c).1] at unavailable
    cases unavailable
  | acquired stage =>
    obtain ⟨whole, no_worker⟩ := placed stage
    refine sound.frame ⟨rfl, rfl, rfl, rfl⟩ (fun _ => follows stage rfl) sound.drained ⟨?_, no_worker⟩
    rw [List.append_assoc]
    exact whole
  | gathered stage =>
    obtain ⟨whole, no_worker⟩ := placed stage
    rw [List.append_nil] at whole
    subst whole
    refine sound.frame ⟨rfl, rfl, rfl, rfl⟩ (fun _ => follows stage rfl) sound.drained ⟨by decide, fun c => ?_⟩
    exact ⟨fun _ => c.mem_all, fun _ => no_worker c⟩
  | @unstarted _ c _ _ failure =>
    rw [sound.plan_eq, (ready c).2] at failure
    cases failure
  | started stage => exact sound.startWorker stage
  | complete stage =>
    obtain ⟨-, unstarted⟩ := placed stage
    refine sound.frame ⟨rfl, rfl, rfl, rfl⟩ (fun _ => follows stage rfl) sound.drained fun c no_worker => ?_
    exact absurd ((unstarted c).mp no_worker) List.not_mem_nil
  | abandoned stage => exact absurd (placed stage) id
  | stopped stage done =>
    have started : ∀ c, s.workers.get c ≠ none := placed stage
    -- The coordinator raises the flag by itself only when no worker is left.
    refine sound.frame ⟨rfl, rfl, rfl, rfl⟩ (fun _ => follows stage rfl) (fun _ => ?_) ⟨started, rfl⟩
    rcases done with raised | all_gone
    · exact sound.drained raised
    · exact (allOver_of_allGone all_gone started).drained
  | joined stage all_gone =>
    obtain ⟨started, -⟩ := placed stage
    exact sound.frame ⟨rfl, rfl, rfl, rfl⟩ (fun _ => follows stage rfl) sound.drained
      ⟨allOver_of_allGone all_gone started, _, rfl⟩
  | detached stage =>
    exact sound.frame ⟨rfl, rfl, rfl, rfl⟩ (fun _ => follows stage rfl) sound.drained (placed stage)
  | closed stage =>
    obtain ⟨all_over, reports, rfl⟩ := placed stage
    exact sound.stopSession (by simp [stage]) all_over reports
  | waited => exact sound

theorem Sound.step {s : System} (sound : s.Sound plan format limit) (ready : plan.Ready) {a : Action}
    (patient : a = .raise → s.Drained) : (s.step a).Sound plan format limit := by
  cases a with
  | coordinate => exact sound.coordinate ready
  | work c =>
    cases worked : s.work? c with
    | none => rwa [step_of_stuck worked]
    | some s' =>
      rw [step_of_worked worked]
      exact sound.work worked
  | write =>
    cases written : s.write? with
    | none => rwa [step_of_write?_none written]
    | some s' =>
      rw [step_of_write? written]
      obtain ⟨t, stepped, rfl⟩ := Option.map_eq_some_iff.mp written
      refine sound.frame ⟨rfl, rfl, rfl, rfl⟩ (fun going => ?_) sound.drained sound.placed
      exact (sound.follows going).write (WriterThread.steps_of_step? stepped)
  | raise =>
    have placed : ({ s with raised := true } : System).Placed format limit := by
      have before := sound.placed
      unfold Placed at before ⊢
      cases stage : s.stage with
      | joining =>
        rw [stage] at before
        exact ⟨before.1, rfl⟩
      | _ =>
        rw [stage] at before
        exact before
    exact sound.frame ⟨rfl, rfl, rfl, rfl⟩ sound.follows (fun _ => patient rfl) placed

theorem Sound.run {s : System} (sound : s.Sound plan format limit) (ready : plan.Ready)
    {actions : List Action} (patient : s.Patient actions) :
    (s.run actions).Sound plan format limit := by
  induction actions generalizing s with
  | nil => exact sound
  | cons a rest ih => exact ih (sound.step ready patient.1) patient.2

end System

end SchedTelemetry
