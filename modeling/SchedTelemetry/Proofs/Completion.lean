import Mathlib.Data.List.Nodup
import SchedTelemetry.Proofs.Conservation

set_option autoImplicit false

namespace SchedTelemetry

namespace System

theorem run_append (s : System) (xs ys : List Action) :
    s.run (xs ++ ys) = (s.run xs).run ys :=
  List.foldl_append

theorem timely_append {calm : System → Prop} {timely : System → List Action → Prop}
    (nil : ∀ s, timely s []) (cons : ∀ s a rest,
      timely s (a :: rest) ↔ (a = .raise → calm s) ∧ timely (s.step a) rest)
    {s : System} {xs ys : List Action} :
    timely s (xs ++ ys) ↔ timely s xs ∧ timely (s.run xs) ys := by
  induction xs generalizing s with
  | nil => exact (and_iff_right (nil s)).symm
  | cons x rest ih =>
    rw [List.cons_append, cons, cons, ih, and_assoc]
    rfl

theorem patient_append {s : System} {xs ys : List Action} :
    s.Patient (xs ++ ys) ↔ s.Patient xs ∧ (s.run xs).Patient ys :=
  timely_append (fun _ => trivial) (fun _ _ _ => Iff.rfl)

theorem punctual_append {s : System} {xs ys : List Action} :
    s.Punctual (xs ++ ys) ↔ s.Punctual xs ∧ (s.run xs).Punctual ys :=
  timely_append (fun _ => trivial) (fun _ _ _ => Iff.rfl)

def Reaches (s s' : System) : Prop := ∃ actions, s.Patient actions ∧ s.run actions = s'

theorem Reaches.sound {s s' : System} {plan : Plan} {format : TraceFormat} {limit : Option Nat}
    (reaches : s.Reaches s') (sound : s.Sound plan format limit) (ready : plan.Ready) :
    s'.Sound plan format limit := by
  obtain ⟨actions, patient, rfl⟩ := reaches
  exact sound.run ready patient

-- In some run in which the flag goes up with all channels at rest.
def Attains (s s' : System) : Prop := ∃ actions, s.Punctual actions ∧ s.run actions = s'

theorem Attains.refl (s : System) : s.Attains s := ⟨[], trivial, rfl⟩

theorem Attains.trans {s t u : System} (first : s.Attains t) (second : t.Attains u) :
    s.Attains u := by
  obtain ⟨xs, punctual, rfl⟩ := first
  obtain ⟨ys, punctual', rfl⟩ := second
  exact ⟨xs ++ ys, punctual_append.mpr ⟨punctual, punctual'⟩, run_append s xs ys⟩

theorem Attains.step {s : System} {a : Action} (punctual : a = .raise → s.Resting) :
    s.Attains (s.step a) :=
  ⟨[a], ⟨punctual, trivial⟩, rfl⟩

def Proceeds (s s' : System) : Prop := ∃ actions, Action.raise ∉ actions ∧ s.run actions = s'

theorem Proceeds.refl (s : System) : s.Proceeds s := ⟨[], List.not_mem_nil, rfl⟩

theorem Proceeds.trans {s t u : System} (first : s.Proceeds t) (second : t.Proceeds u) :
    s.Proceeds u := by
  obtain ⟨xs, calm, rfl⟩ := first
  obtain ⟨ys, calm', rfl⟩ := second
  refine ⟨xs ++ ys, ?_, run_append s xs ys⟩
  rw [List.mem_append]
  exact not_or.mpr ⟨calm, calm'⟩

theorem Proceeds.step {s : System} {a : Action} (calm : a ≠ .raise) : s.Proceeds (s.step a) :=
  ⟨[a], by simpa using calm.symm, rfl⟩

theorem punctual_of_calm {s : System} {actions : List Action} (calm : Action.raise ∉ actions) :
    s.Punctual actions := by
  induction actions generalizing s with
  | nil => trivial
  | cons a rest ih =>
    rw [List.mem_cons, not_or] at calm
    exact ⟨fun raise => absurd raise.symm calm.1, ih calm.2⟩

theorem Proceeds.attains {s s' : System} (proceeds : s.Proceeds s') : s.Attains s' := by
  obtain ⟨actions, calm, ran⟩ := proceeds
  exact ⟨actions, punctual_of_calm calm, ran⟩

theorem Attains.reaches {s s' : System} (attains : s.Attains s') : s.Reaches s' := by
  obtain ⟨actions, punctual, ran⟩ := attains
  exact ⟨actions, punctual.patient, ran⟩

theorem stuck_of_work? {s : System} {c : Channel} (blocked : s.work? c = none)
    (room : s.writer.isFull = false) : s.Stuck c := by
  intro w here
  simp only [work?, here] at blocked
  split at blocked
  next stuck => exact stuck
  next => cases blocked
  next =>
    cases writer : s.writer with
    | running t inHand queue =>
      have within : queue.length < WriterThread.queueDepth := by
        simpa [writer, WriterThread.isFull] using room
      simp [writer, WriterThread.offer, within] at blocked
    | ended trace => simp [writer, WriterThread.offer] at blocked

-- A full queue keeps no worker waiting for ever: there is something to write then.
theorem goOn?_eq_none {s : System} {c : Channel} :
    s.goOn? c = none ↔ s.Stuck c ∧ s.writer.isFull = false := by
  constructor
  · intro stays
    simp only [goOn?] at stays
    split at stays
    next => cases stays
    next blocked =>
      split at stays
      next full =>
        exact absurd (Option.map_eq_none_iff.mp stays) (WriterThread.step?_of_isFull full)
      next room =>
        replace room := Bool.eq_false_iff.mpr room
        exact ⟨stuck_of_work? blocked room, room⟩
  · rintro ⟨stuck, room⟩
    simp [goOn?, stuck.work?, room]

theorem settle_of_none {s : System} {c : Channel} (stays : s.goOn? c = none) : s.settle c = s := by
  rw [settle]
  split
  next => rfl
  next goes =>
    rw [stays] at goes
    cases goes

theorem settle_of_some {s s' : System} {c : Channel} (goes : s.goOn? c = some s') :
    s.settle c = s'.settle c := by
  rw [settle]
  split
  next stays =>
    rw [goes] at stays
    cases stays
  next same =>
    rw [goes] at same
    cases same
    rfl

structure SettleFrame (c : Channel) (s s' : System) : Prop where
  stage : s'.stage = s.stage
  raised : s'.raised = s.raised
  others : ∀ d, d ≠ c → s'.workers.get d = s.workers.get d

theorem goOn?_spec {s s' : System} {c : Channel} (goes : s.goOn? c = some s') :
    s.Proceeds s' ∧ SettleFrame c s s' := by
  simp only [goOn?] at goes
  split at goes
  next worked =>
    cases goes
    refine ⟨step_of_worked worked ▸ Proceeds.step nofun, ?_⟩
    obtain ⟨w, w', batch?, ns, -, -, same⟩ := work?_eq_some worked
    rw [same]
    exact ⟨rfl, rfl, fun d other => PerChannel.get_set_of_ne _ _ other⟩
  next =>
    split at goes
    next =>
      refine ⟨step_of_write? goes ▸ Proceeds.step nofun, ?_⟩
      obtain ⟨t, -, rfl⟩ := Option.map_eq_some_iff.mp goes
      exact ⟨rfl, rfl, fun _ _ => rfl⟩
    next => cases goes

theorem settle_spec (c : Channel) (s : System) :
    s.Proceeds (s.settle c) ∧ (s.settle c).goOn? c = none ∧ SettleFrame c s (s.settle c) := by
  induction s using settle.induct c with
  | case1 s stays =>
    rw [settle_of_none stays]
    exact ⟨.refl s, stays, rfl, rfl, fun _ _ => rfl⟩
  | case2 s s' goes ih =>
    obtain ⟨proceeds, stays, frame⟩ := ih
    obtain ⟨first, step⟩ := goOn?_spec goes
    rw [settle_of_some goes]
    exact ⟨first.trans proceeds, stays, frame.stage.trans step.stage, frame.raised.trans step.raised,
      fun d other => (frame.others d other).trans (step.others d other)⟩

theorem settle_list_spec (channels : List Channel) (s : System) :
    s.Proceeds (channels.foldl (fun s c => s.settle c) s) ∧
      (channels.foldl (fun s c => s.settle c) s).stage = s.stage ∧
      (channels.foldl (fun s c => s.settle c) s).raised = s.raised ∧
      (channels ≠ [] ∨ s.writer.isFull = false →
        (channels.foldl (fun s c => s.settle c) s).writer.isFull = false) ∧
      ∀ c, c ∈ channels ∨ s.Stuck c → (channels.foldl (fun s c => s.settle c) s).Stuck c := by
  induction channels generalizing s with
  | nil =>
    refine ⟨.refl s, rfl, rfl, ?_, ?_⟩
    · rintro (none_settled | room)
      · exact absurd rfl none_settled
      · exact room
    · rintro c (member | stuck)
      · cases member
      · exact stuck
  | cons d rest ih =>
    obtain ⟨proceeds, stays, frame⟩ := settle_spec d s
    obtain ⟨settled, room⟩ := goOn?_eq_none.mp stays
    obtain ⟨later, stage, raised, still_room, stuck⟩ := ih (s.settle d)
    refine ⟨proceeds.trans later, stage.trans frame.stage, raised.trans frame.raised,
      fun _ => still_room (Or.inr room), ?_⟩
    intro c before
    apply stuck c
    by_cases same : c = d
    · subst same
      exact Or.inr settled
    · rcases before with member | already
      · exact Or.inl ((List.mem_cons.mp member).resolve_left same)
      · right
        rw [Stuck, frame.others c same, frame.raised]
        exact already

theorem settleAll_proceeds (s : System) : s.Proceeds s.settleAll :=
  (settle_list_spec Channel.all s).1

theorem settleAll_stage (s : System) : s.settleAll.stage = s.stage :=
  (settle_list_spec Channel.all s).2.1

theorem settleAll_raised (s : System) : s.settleAll.raised = s.raised :=
  (settle_list_spec Channel.all s).2.2.1

theorem settleAll_stays (s : System) (c : Channel) : s.settleAll.goOn? c = none := by
  obtain ⟨-, -, -, room, stuck⟩ := settle_list_spec Channel.all s
  exact goOn?_eq_none.mpr ⟨stuck c (Or.inl c.mem_all), room (Or.inl (by decide))⟩

theorem settleAll_of_stays {s : System} (stays : ∀ c, s.goOn? c = none) : s.settleAll = s := by
  simp only [settleAll]
  induction Channel.all with
  | nil => rfl
  | cons c rest ih => rw [List.foldl_cons, settle_of_none (stays c), ih]

theorem round_proceeds (s : System) : s.Proceeds s.round :=
  s.settleAll_proceeds.trans (Proceeds.step (a := .coordinate) nofun)

theorem rounds_proceeds (n : Nat) (s : System) : s.Proceeds (s.rounds n) := by
  induction n generalizing s with
  | zero => exact .refl s
  | succ n ih => exact s.round_proceeds.trans (ih s.round)

end System

def CoordinatorStage.rank : CoordinatorStage → Nat
  | .acquiring built rest => 2 * rest.length + built.length + 6
  | .starting rest => rest.length + 5
  | .abandoning _ _ => 3
  | .watching => 4
  | .joining => 3
  | .detaching _ => 2
  | .stopping _ => 1
  | .finished _ => 0

namespace System

structure Awaits (s : System) : Prop where
  watching : s.stage = .watching
  lowered : s.raised = false
  stays : ∀ c, s.goOn? c = none
  not_gone : s.allGone = false

theorem Awaits.round_eq {s : System} (awaits : s.Awaits) : s.round = s := by
  rw [round, settleAll_of_stays awaits.stays, coordinate, awaits.watching]
  simp [awaits.lowered, awaits.not_gone]

variable {plan : Plan} {format : TraceFormat} {limit : Option Nat}

theorem gone_or_waiting {s : System} {c : Channel} (stays : s.goOn? c = none) {w : Worker}
    (here : s.workers.get c = some w) :
    w.isGone = true ∨ (w.isWaiting = true ∧ s.raised = false) :=
  Worker.step?_eq_none ((goOn?_eq_none.mp stays).1 w here)

theorem allGone_of_stays {s : System} (stays : ∀ c, s.goOn? c = none) (raised : s.raised = true) :
    s.allGone = true := by
  rw [allGone_iff]
  intro c w here
  rcases gone_or_waiting (stays c) here with gone | ⟨-, lowered⟩
  · exact gone
  · rw [raised] at lowered
    cases lowered

theorem stopSession_rank (s : System) (outcome : Except CollectError (List WorkerReport)) :
    (s.stopSession outcome).stage.rank = 0 := by
  simp only [stopSession]
  split <;> rfl

theorem coordinate_rank (s : System) :
    (s.Waits ∧ s.coordinate = s) ∨ s.coordinate.stage.rank ≤ s.stage.rank - 1 := by
  have moves := s.moves_coordinate
  generalize s.coordinate = s' at moves ⊢
  cases moves with
  | waited waits => exact Or.inl ⟨waits, rfl⟩
  | acquired stage =>
    right
    rw [stage]
    simp [CoordinatorStage.rank]
    omega
  | closed stage =>
    right
    rw [stopSession_rank]
    exact Nat.zero_le _
  | denied stage | gathered stage | unstarted stage | started stage | complete stage
  | abandoned stage | stopped stage | joined stage | detached stage =>
    right
    rw [stage]
    simp [CoordinatorStage.rank]

theorem coordinate_raised {s : System} (raised : s.raised = true) : s.coordinate.raised = true := by
  have moves := s.moves_coordinate
  generalize s.coordinate = s' at moves ⊢
  cases moves with
  | closed =>
    simp only [stopSession]
    split <;> exact raised
  | unstarted | stopped => rfl
  | _ => exact raised

-- Workers are waited for only once they have been told to stop.
def Told (s : System) : Prop :=
  match s.stage with
  | .abandoning _ _ => s.raised = true
  | .joining => s.raised = true
  | _ => True

theorem told_of_raised {s : System} (raised : s.raised = true) : s.Told := by
  simp only [Told]
  split
  next => exact raised
  next => exact raised
  next => trivial

theorem Told.frame {s s' : System} (told : s.Told) (stage : s'.stage = s.stage)
    (raised : s.raised = true → s'.raised = true) : s'.Told := by
  simp only [Told, stage] at told ⊢
  split at told
  next => exact raised told
  next => exact raised told
  next => trivial

theorem Told.coordinate {s : System} (told : s.Told) : s.coordinate.Told := by
  have moves := s.moves_coordinate
  generalize s.coordinate = s' at moves ⊢
  cases moves with
  | unstarted | stopped => rfl
  | closed =>
    simp only [stopSession]
    split <;> trivial
  | waited => exact told
  | _ => trivial

theorem Told.step {s : System} (told : s.Told) (a : Action) : (s.step a).Told := by
  cases a with
  | coordinate => exact told.coordinate
  | work c =>
    cases worked : s.work? c with
    | none => rwa [step_of_stuck worked]
    | some s' =>
      rw [step_of_worked worked]
      obtain ⟨w, w', batch?, ns, -, -, same⟩ := work?_eq_some worked
      rw [same]
      exact told.frame rfl id
  | write =>
    cases written : s.write? with
    | none => rwa [step_of_write?_none written]
    | some s' =>
      rw [step_of_write? written]
      obtain ⟨t, -, rfl⟩ := Option.map_eq_some_iff.mp written
      exact told.frame rfl id
  | raise => exact told_of_raised rfl

theorem Told.run {s : System} (told : s.Told) (actions : List Action) : (s.run actions).Told := by
  induction actions generalizing s with
  | nil => exact told
  | cons a rest ih => exact ih (told.step a)

theorem Proceeds.told {s s' : System} (proceeds : s.Proceeds s') (told : s.Told) : s'.Told := by
  obtain ⟨actions, -, rfl⟩ := proceeds
  exact told.run actions

theorem Told.round_rank {s : System} (told : s.Told) :
    (s.stage = .watching ∧ s.raised = false ∧ s.round.Awaits) ∨
      s.round.stage.rank ≤ s.stage.rank - 1 := by
  have settled := s.settleAll_proceeds.told told
  have stays := s.settleAll_stays
  rw [← s.settleAll_stage, ← s.settleAll_raised, round]
  generalize s.settleAll = t at settled stays
  have all_gone := allGone_of_stays stays
  rcases t.coordinate_rank with ⟨waits, same⟩ | nearer
  · rw [same]
    simp only [Waits] at waits
    simp only [Told] at settled
    split at waits
    next stage =>
      rw [stage] at settled
      rw [all_gone settled] at waits
      cases waits
    next stage =>
      left
      exact ⟨stage, waits.1, stage, waits.1, stays, waits.2⟩
    next stage =>
      rw [stage] at settled
      rw [all_gone settled] at waits
      cases waits
    next result stage =>
      right
      rw [stage]
      exact Nat.le_refl 0
    next => exact absurd waits id
  · exact Or.inr nearer

theorem Told.rounds_end {n : Nat} {s : System} (told : s.Told)
    (near : s.Awaits ∨ s.stage.rank ≤ n) :
    (s.rounds n).Awaits ∨ (s.rounds n).stage.rank = 0 := by
  induction n generalizing s with
  | zero => exact near.imp_right Nat.le_zero.mp
  | succ n ih =>
    apply ih (s.round_proceeds.told told)
    rcases near with awaits | rank
    · left
      rw [awaits.round_eq]
      exact awaits
    · rcases told.round_rank with ⟨-, -, awaits⟩ | nearer
      · exact Or.inl awaits
      · exact Or.inr (by omega)

theorem rounds_raised {s : System} (raised : s.raised = true) (n : Nat) :
    (s.rounds n).raised = true := by
  induction n generalizing s with
  | zero => exact raised
  | succ n ih => exact ih (coordinate_raised (s.settleAll_raised.trans raised))

theorem rounds_end_of_raised {n : Nat} {s : System} (raised : s.raised = true)
    (near : s.stage.rank ≤ n) : (s.rounds n).stage.rank = 0 := by
  apply ((told_of_raised raised).rounds_end (Or.inr near)).resolve_left
  intro awaits
  have lowered := awaits.lowered
  rw [rounds_raised raised] at lowered
  cases lowered

theorem Sound.told {s : System} (sound : s.Sound plan format limit) : s.Told := by
  have placed := sound.placed
  simp only [Placed] at placed
  simp only [Told]
  split
  next stage =>
    rw [stage] at placed
    exact absurd placed id
  next stage =>
    rw [stage] at placed
    exact placed.2
  next => trivial

theorem Sound.rank_le {s : System} (sound : s.Sound plan format limit) :
    s.stage.rank ≤ enoughRounds := by
  have placed {stage : CoordinatorStage} (here : s.stage = stage) := placed_at sound.placed here
  have size : Channel.all.length = 7 := rfl
  cases stage : s.stage with
  | acquiring built rest =>
    have whole := congrArg List.length (placed stage).1
    rw [List.length_append] at whole
    simp only [CoordinatorStage.rank, enoughRounds]
    omega
  | starting rest =>
    have within : rest.length ≤ Channel.all.length :=
      (List.subperm_of_subset (placed stage).1 (fun c _ => c.mem_all)).length_le
    simp only [CoordinatorStage.rank, enoughRounds]
    omega
  | _ => simp [CoordinatorStage.rank, enoughRounds]

theorem finished_of_rank {s : System} {stage : CoordinatorStage} (here : s.stage = stage)
    (rank : stage.rank = 0) : ∃ result, s.stage = .finished result := by
  cases stage with
  | finished result => exact ⟨result, here⟩
  | _ => simp [CoordinatorStage.rank] at rank

theorem rounds_of_finished {s : System} {result : Except CollectError CollectionReport}
    (finished : s.stage = .finished result) (n : Nat) : (s.rounds n).stage = .finished result := by
  induction n generalizing s with
  | zero => exact finished
  | succ n ih =>
    apply ih
    have settled := s.settleAll_stage.trans finished
    simp only [round, coordinate]
    rw [settled]
    exact settled

theorem isQuiet_iff {s : System} :
    s.isQuiet = true ↔
      ∀ c, ∃ w, s.workers.get c = some w ∧ (w.isGone = true ∨ w.isWaiting = true) := by
  simp only [isQuiet, List.all_eq_true]
  constructor
  · intro quiet c
    have here := quiet c c.mem_all
    cases worker : s.workers.get c with
    | none => simp [worker] at here
    | some w => exact ⟨w, rfl, by simpa [worker] using here⟩
  · intro quiet c _
    obtain ⟨w, here, rests⟩ := quiet c
    simpa [here] using rests

theorem resting_of_isQuiet {s : System} (quiet : s.isQuiet = true) : s.Resting := by
  intro c
  obtain ⟨w, here, gone | waiting⟩ := isQuiet_iff.mp quiet c
  · rw [here]
    exact (Worker.isGone_iff.mp gone).2.resting
  · have stage : w.stage = .waiting := by simpa using (Bool.and_eq_true_iff.mp waiting).2
    rw [here]
    simp [Worker.Resting, stage]

theorem raiseWhenQuiet_attains (s : System) : s.Attains s.raiseWhenQuiet := by
  simp only [raiseWhenQuiet]
  split
  next quiet =>
    exact Attains.step (fun _ => resting_of_isQuiet (Bool.and_eq_true_iff.mp quiet).1)
  next => exact .refl s

theorem Sound.raiseWhenQuiet_of_awaits {s : System} (sound : s.Sound plan format limit)
    (awaits : s.Awaits) : s.raiseWhenQuiet = { s with raised := true } := by
  have started : ∀ c, s.workers.get c ≠ none := placed_at sound.placed awaits.watching
  have quiet : s.isQuiet = true := by
    rw [isQuiet_iff]
    intro c
    obtain ⟨w, here⟩ := Option.ne_none_iff_exists'.mp (started c)
    exact ⟨w, here, (gone_or_waiting (awaits.stays c) here).imp_right And.left⟩
  have waiting : s.someWaiting = true := by
    by_contra none_waits
    have all_gone : s.allGone = true := by
      rw [allGone_iff]
      intro c w here
      rcases gone_or_waiting (awaits.stays c) here with gone | ⟨waits, -⟩
      · exact gone
      · refine absurd (List.any_eq_true.mpr ⟨c, c.mem_all, ?_⟩) none_waits
        rw [here]
        exact waits
    rw [awaits.not_gone] at all_gone
    cases all_gone
  rw [raiseWhenQuiet, quiet, waiting]
  rfl

theorem runToEnd_attains (s : System) : s.Attains s.runToEnd :=
  ((rounds_proceeds enoughRounds s).attains.trans (raiseWhenQuiet_attains _)).trans
    (rounds_proceeds enoughRounds _).attains

theorem Sound.runToEnd_finishes {s : System} (sound : s.Sound plan format limit) (ready : plan.Ready) :
    s.Reaches s.runToEnd ∧ ∃ result, s.runToEnd.stage = .finished result := by
  refine ⟨s.runToEnd_attains.reaches, ?_⟩
  have first := (rounds_proceeds enoughRounds s).attains
  have raised := first.trans (raiseWhenQuiet_attains _)
  -- The first rounds end where only the flag is missing, or they end the collection.
  rcases sound.told.rounds_end (Or.inr sound.rank_le) with awaits | rank
  · have flag := (first.reaches.sound sound ready).raiseWhenQuiet_of_awaits awaits
    have later := raised.reaches.sound sound ready
    rw [flag] at later
    rw [runToEnd, flag]
    exact finished_of_rank rfl (rounds_end_of_raised rfl later.rank_le)
  · obtain ⟨result, finished⟩ := finished_of_rank rfl rank
    have still : (s.rounds enoughRounds).raiseWhenQuiet.stage = .finished result := by
      simp only [raiseWhenQuiet]
      split
      · exact finished
      · exact finished
    exact ⟨result, rounds_of_finished still enoughRounds⟩

/-- A collection has ended well, with exactly the records that were expected of each channel. -/
structure Conserved (s : System) (plan : Plan) (format : TraceFormat)
    (result : Except CollectError CollectionReport) : Prop where
  interleaves : Interleaves plan.expected s.handed
  none_lost : s.lost = []
  counts : ∃ reports, result = .ok ⟨reports, s.handed.length⟩
  held : ∃ sink, s.sink = some sink ∧ sink.held = traceBytes format s.handed

theorem Sound.conserved {s : System} (sound : s.Sound plan format none)
    {result : Except CollectError CollectionReport} (finished : s.stage = .finished result) :
    s.Conserved plan format result := by
  have ended : s.AllOver ∧ s.Written format none result := placed_at sound.placed finished
  obtain ⟨all_over, ⟨reports, counts⟩, ⟨sink, here, held⟩, kept, -⟩ := ended
  have room : Sink.Admits none (traceBytes format s.handed).length := nofun
  rw [if_pos room] at counts
  exact ⟨sound.interleaves all_over, kept room, ⟨reports, counts⟩, sink, here, held room⟩

def troubled : Plan where
  setup := ⟨.every, .empty, .empty⟩
  scripts := .ofFn fun
    | .freqIdle =>
      ⟨none, none, none,
        [.delivered [[5, 0, 0, 0, 0, 0, 0, 0, 1, 0, 0, 0, 2, 0, 0, 0, 255, 255, 255, 255, 0, 0, 0, 0]],
          .failed "buffer gone",
          .delivered [[6, 0, 0, 0, 0, 0, 0, 0, 1, 0, 0, 0, 3, 0, 0, 0, 0, 0, 0, 0, 0, 0, 0, 0]]]⟩
    | .nrRunning =>
      ⟨none, none, none,
        [.interrupted, .delivered [[7, 0, 0, 0, 0, 0, 0, 0, 0, 0, 0, 0, 4, 0, 0, 0], [1]], .panicked]⟩
    | .ipi => ⟨none, none, some "no such map", [.delivered [[8]]]⟩
    | _ => .idle

end System

end SchedTelemetry
