import SchedTelemetry.Proofs.Batching
import SchedTelemetry.Proofs.Processing
import SchedTelemetry.Proofs.Steps

set_option autoImplicit false

namespace SchedTelemetry

def delivered : List Poll → List (List UInt8)
  | [] => []
  | .delivered raws :: rest => raws ++ delivered rest
  | .interrupted :: rest => delivered rest
  | .failed _ :: _ => []
  | .panicked :: _ => []

def ChannelScript.raws (script : ChannelScript) : List (List UInt8) :=
  match script.openFailure with
  | some _ => []
  | none => delivered script.polls

namespace Worker

def unpolled (w : Worker) : List (List UInt8) :=
  match w.stage with
  | .opening => w.script.raws
  | .polling => delivered w.script.polls
  | .delivering _ => delivered w.script.polls
  | .waiting => []
  | .ended => []
  | .panicked => []

def underWay (w : Worker) : List (List UInt8) :=
  match w.stage with
  | .delivering raws => raws
  | _ => []

def owed (w : Worker) : List Record :=
  w.outbox.flatten ++ w.recorder.pending ++ w.processor.emitted (w.underWay ++ w.unpolled)

def isOver (w : Worker) : Prop := w.stage = .ended ∨ w.stage = .panicked

def handsOver (w : Worker) : Prop := w.isOver → w.recorder.pending = []

theorem owed_fresh (channel : Channel) (script : ChannelScript) (setup : Setup) (batchSize : Nat) :
    (fresh channel script setup batchSize).owed =
      (Processor.fresh channel setup).emitted script.raws :=
  rfl

theorem owed_of_nothing_left {w : Worker} (left : w.underWay ++ w.unpolled = []) :
    w.owed = w.outbox.flatten ++ w.recorder.pending := by
  rw [owed, left]
  exact List.append_nil _

theorem isOver.nothing_left {w : Worker} (is_over : w.isOver) : w.underWay ++ w.unpolled = [] := by
  simp only [underWay, unpolled]
  rcases is_over with ended | panicked
  · rw [ended]
    rfl
  · rw [panicked]
    rfl

theorem isOver.unpolled {w : Worker} (is_over : w.isOver) : w.unpolled = [] :=
  (List.append_eq_nil_iff.mp is_over.nothing_left).2

theorem flush_outbox (w : Worker) :
    w.flush.outbox.flatten ++ w.flush.recorder.pending = w.outbox.flatten ++ w.recorder.pending := by
  simp [flush, Recorder.flush_pending, Recorder.flush_flatten]

-- Nothing that a worker owes is lost on the way from `w` to `w'`, and none is added.
structure Keeps (w : Worker) (handed : List Record) (w' : Worker) : Prop where
  owed_eq : handed ++ w'.owed = w.owed
  handsOver : w.handsOver → w'.handsOver
  unpolled : w.unpolled = [] → w'.unpolled = []

theorem going_handsOver {w : Worker} (not_ended : w.stage ≠ .ended)
    (not_panicked : w.stage ≠ .panicked) : w.handsOver := by
  rintro (ended | panicked)
  · exact absurd ended not_ended
  · exact absurd panicked not_panicked

theorem isOver_keeps {w v : Worker} (left : w.underWay ++ w.unpolled = []) (is_over : v.isOver)
    (outbox : v.outbox = w.flush.outbox) (recorder : v.recorder = w.flush.recorder) :
    w.Keeps [] v := by
  refine ⟨?_, ?_, ?_⟩
  · rw [List.nil_append, owed_of_nothing_left is_over.nothing_left, owed_of_nothing_left left,
      outbox, recorder, w.flush_outbox]
  · intro _ _
    rw [recorder]
    exact w.recorder.flush_pending
  · intro _
    exact is_over.unpolled

theorem consume_keeps {w : Worker} {raw : List UInt8} {rest : List (List UInt8)}
    (stage : w.stage = .delivering (raw :: rest)) :
    w.Keeps [] { w.consume raw with stage := .delivering rest } := by
  have unpolled : w.unpolled = delivered w.script.polls := by simp [Worker.unpolled, stage]
  have under_way : w.underWay = raw :: rest := by simp [underWay, stage]
  refine ⟨?_, fun _ => going_handsOver nofun nofun, fun nothing => unpolled.symm.trans nothing⟩
  have collected := w.recorder.emitAll_flatten (w.processor.consume raw).2.records
  have outbox : (w.consume raw).outbox =
      w.outbox ++ (w.recorder.emitAll (w.processor.consume raw).2.records).2 := rfl
  have after : ({ w.consume raw with stage := .delivering rest } : Worker).owed =
      (w.consume raw).outbox.flatten
        ++ (w.recorder.emitAll (w.processor.consume raw).2.records).1.pending
        ++ (w.processor.consume raw).1.emitted (rest ++ delivered w.script.polls) := rfl
  rw [List.nil_append, after, outbox, List.flatten_append, List.append_assoc w.outbox.flatten,
    collected, owed, under_way, unpolled, List.cons_append, Processor.emitted]
  simp only [List.append_assoc]

theorem poll_keeps {w : Worker} (stage : w.stage = .polling) : w.Keeps [] w.poll := by
  have unpolled : w.unpolled = delivered w.script.polls := by simp [Worker.unpolled, stage]
  have under_way : w.underWay = [] := by simp [underWay, stage]
  have polls := w.polls_poll
  generalize w.poll = v at polls ⊢
  cases polls with
  | idled polls =>
    rw [polls] at unpolled
    refine ⟨?_, fun _ => going_handsOver nofun nofun, fun _ => rfl⟩
    rw [owed, owed, under_way, unpolled]
    rfl
  | received polls =>
    rw [polls] at unpolled
    refine ⟨?_, fun _ => going_handsOver nofun nofun, ?_⟩
    · rw [owed, owed, under_way, unpolled]
      rfl
    · intro nothing
      rw [unpolled] at nothing
      exact (List.append_eq_nil_iff.mp nothing).2
  | @interrupted rest polls =>
    rw [polls] at unpolled
    have later : ({ w.beginPoll rest with interrupted := w.interrupted + 1 } : Worker).unpolled =
        delivered rest := by
      simp [Worker.unpolled, beginPoll, stage]
    refine ⟨?_, fun _ => going_handsOver ?_ ?_, fun nothing => ?_⟩
    · rw [owed, owed, later, unpolled]
      rfl
    · simp [beginPoll, stage]
    · simp [beginPoll, stage]
    · rw [later]
      exact unpolled.symm.trans nothing
  | failed polls =>
    refine isOver_keeps ?_ (Or.inl rfl) rfl rfl
    rw [under_way, unpolled, polls]
    rfl
  | panicked polls =>
    refine isOver_keeps ?_ (Or.inr rfl) rfl rfl
    rw [under_way, unpolled, polls]
    rfl

theorem advance?_keeps {raised : Bool} {w w' : Worker}
    (drained : raised = true → w.unpolled = []) (advanced : w.advance? raised = some w') :
    w.Keeps [] w' := by
  -- Only the stage changes, and nothing is under way in it before or after.
  have onward (under_way : w.underWay = []) (unpolled : w.unpolled = delivered w.script.polls) :
      w.Keeps [] { w with stage := .polling } := by
    refine ⟨?_, fun _ => going_handsOver nofun nofun, fun nothing => unpolled.symm.trans nothing⟩
    rw [owed, owed, under_way, unpolled]
    rfl
  cases advances_of_advance? advanced with
  | unopened stage failure =>
    refine isOver_keeps ?_ (Or.inl rfl) rfl rfl
    simp [underWay, unpolled, stage, ChannelScript.raws, failure]
  | opened stage opens =>
    apply onward
    · simp [underWay, stage]
    · simp [unpolled, stage, ChannelScript.raws, opens]
  | told stage flag =>
    -- What the script still has would be lost here, but for its being drained.
    refine isOver_keeps ?_ (Or.inl rfl) rfl rfl
    rw [drained flag]
    simp [underWay, stage]
  | polled stage => exact poll_keeps stage
  | emptied stage =>
    apply onward
    · simp [underWay, stage]
    · simp [unpolled, stage]
  | consumed stage => exact consume_keeps stage
  | woken stage =>
    refine isOver_keeps ?_ (Or.inl rfl) rfl rfl
    simp [underWay, unpolled, stage]

theorem step?_keeps {raised : Bool} {w w' : Worker} {batch? : Option Batch}
    (drained : raised = true → w.unpolled = [])
    (stepped : w.step? raised = some (w', batch?)) : w.Keeps (batch?.getD []) w' := by
  simp only [step?] at stepped
  split at stepped
  next batch rest outbox =>
    cases stepped
    refine ⟨?_, id, id⟩
    rw [owed, owed, outbox]
    simp [underWay, unpolled]
  next =>
    obtain ⟨v, advanced, same⟩ := Option.map_eq_some_iff.mp stepped
    cases same
    exact advance?_keeps drained advanced

theorem isGone_iff {w : Worker} : w.isGone = true ↔ w.outbox = [] ∧ w.isOver := by
  simp [isGone, isOver]

theorem step?_of_isGone {w : Worker} (gone : w.isGone = true) (raised : Bool) :
    w.step? raised = none := by
  obtain ⟨outbox, ended | panicked⟩ := isGone_iff.mp gone
  · simp [step?, advance?, outbox, ended]
  · simp [step?, advance?, outbox, panicked]

theorem owed_of_isGone {w : Worker} (gone : w.isGone = true) (handsOver : w.handsOver) :
    w.owed = [] := by
  obtain ⟨outbox, is_over⟩ := isGone_iff.mp gone
  rw [owed_of_nothing_left (isOver.nothing_left is_over), outbox, handsOver is_over]
  rfl

end Worker

end SchedTelemetry
