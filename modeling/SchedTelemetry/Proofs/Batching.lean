import SchedTelemetry.Proofs.Stopping
import SchedTelemetry.Proofs.TaggedLog

set_option autoImplicit false

namespace SchedTelemetry

namespace Recorder

theorem flush_flatten (r : Recorder) : r.flush.2.flatten = r.pending := by
  simp only [flush]
  split
  next empty => rw [List.isEmpty_iff.mp empty, List.flatten_nil]
  next => exact List.flatten_singleton

theorem flush_pending (r : Recorder) : r.flush.1.pending = [] := by
  simp only [flush]
  split
  next empty => exact List.isEmpty_iff.mp empty
  next => rfl

theorem flush_batchSize (r : Recorder) : r.flush.1.batchSize = r.batchSize := by
  simp only [flush]
  split <;> rfl

theorem mem_flush {r : Recorder} {b : Batch} (member : b ∈ r.flush.2) :
    b = r.pending ∧ b ≠ [] := by
  simp only [flush] at member
  split at member
  next => exact absurd member List.not_mem_nil
  next some_left =>
    have whole : b = r.pending := List.mem_singleton.mp member
    refine ⟨whole, ?_⟩
    rw [whole]
    exact fun empty => some_left (List.isEmpty_iff.mpr empty)

theorem emit_flatten (r : Recorder) (x : Record) :
    (r.emit x).2.flatten ++ (r.emit x).1.pending = r.pending ++ [x] := by
  simp only [emit]
  split
  · rw [flush_flatten, flush_pending, List.append_nil]
  · rfl

theorem emit_batchSize (r : Recorder) (x : Record) : (r.emit x).1.batchSize = r.batchSize := by
  simp only [emit]
  split
  · exact flush_batchSize _
  · rfl

theorem emit_pending_lt {r : Recorder} (positive : 0 < r.batchSize) (x : Record) :
    (r.emit x).1.pending.length < r.batchSize := by
  simp only [emit]
  split
  · rw [flush_pending]
    exact positive
  next room => exact Nat.lt_of_not_le room

theorem mem_emit {r : Recorder} {x : Record} {b : Batch} (room : r.pending.length < r.batchSize)
    (member : b ∈ (r.emit x).2) : b ≠ [] ∧ b.length ≤ r.batchSize := by
  simp only [emit] at member
  split at member
  · obtain ⟨rfl, some_left⟩ := mem_flush member
    refine ⟨some_left, ?_⟩
    simp only [List.length_append, List.length_singleton]
    omega
  · exact absurd member List.not_mem_nil

theorem emitAll_flatten (r : Recorder) (xs : List Record) :
    (r.emitAll xs).2.flatten ++ (r.emitAll xs).1.pending = r.pending ++ xs := by
  induction xs generalizing r with
  | nil => simp [emitAll]
  | cons x rest ih =>
    have here := r.emit_flatten x
    simp only [emitAll, List.flatten_append, List.append_assoc]
    rw [ih, ← List.append_assoc, here, List.append_assoc, List.singleton_append]

end Recorder

def SessionStep.emission? : SessionStep → Option (Nat × Record)
  | .emit i x => some (i, x)
  | .cpuCounter i ts cpu signal value => some (i, .cpuCounter ts cpu signal value)
  | .taskCounter i ts name pid signal value => some (i, .taskCounter ts name pid signal value)
  | .recorder => none
  | .flush _ => none
  | .drop _ => none

-- `alive` tells of each recorder made so far whether it is still there.
def SessionStep.emits (alive : List Bool) (step : SessionStep) : List (Nat × Record) :=
  match step.emission? with
  | some (i, x) => if alive[i]? = some true then [(i, x)] else []
  | none => []

def SessionStep.leaves (alive : List Bool) : SessionStep → List Bool
  | .recorder => alive ++ [true]
  | .drop i => alive.set i false
  | _ => alive

def emissions (alive : List Bool) : List SessionStep → List (Nat × Record)
  | [] => []
  | step :: rest => step.emits alive ++ emissions (step.leaves alive) rest

namespace Session

def alive (s : Session) : List Bool := s.recorders.map Option.isSome

def pendingAt (s : Session) (i : Nat) : List Record :=
  ((s.recorder? i).map (·.pending)).getD []

-- What has been emitted so far is either sent or pending, recorder by recorder.
structure Keeps (s : Session) (log : List (Nat × Record)) : Prop where
  positive : 0 < s.batchSize
  room : ∀ i r, s.recorder? i = some r →
    r.batchSize = s.batchSize ∧ r.pending.length < s.batchSize
  batches : ∀ e ∈ s.sent, e.2 ≠ [] ∧ e.2.length ≤ s.batchSize
  conserves : ∀ i, through i (unbatched s.sent) ++ s.pendingAt i = through i log

theorem recorder?_eq_some {s : Session} {i : Nat} {r : Recorder} :
    s.recorder? i = some r ↔ s.recorders[i]? = some (some r) :=
  Option.join_eq_some_iff

theorem recorder?_handOver {s : Session} {i : Nat} {r : Recorder} (here : s.recorder? i = some r)
    (r? : Option Recorder) (batches : List Batch) (j : Nat) :
    (s.handOver i r? batches).recorder? j = if j = i then r? else s.recorder? j := by
  have bound : i < s.recorders.length :=
    (List.getElem?_eq_some_iff.mp (recorder?_eq_some.mp here)).1
  simp only [recorder?, handOver]
  rw [List.getElem?_set]
  by_cases same : i = j
  · simp [same, same ▸ bound]
  · rw [if_neg same, if_neg (Ne.symm same)]

theorem alive_of_recorder? (s : Session) (i : Nat) :
    s.alive[i]? = some true ↔ ∃ r, s.recorder? i = some r := by
  rw [alive, List.getElem?_map]
  simp only [recorder?_eq_some, Option.map_eq_some_iff, Option.isSome_iff_exists]
  constructor
  · rintro ⟨_, place, r, rfl⟩
    exact ⟨r, place⟩
  · rintro ⟨r, place⟩
    exact ⟨_, place, r, rfl⟩

theorem handOver_keeps {s : Session} {log : List (Nat × Record)} (keeps : s.Keeps log)
    {i : Nat} {r : Recorder} (here : s.recorder? i = some r) {r? : Option Recorder}
    {batches : List Batch} (more : List Record)
    (room : ∀ r', r? = some r' → r'.batchSize = r.batchSize ∧ r'.pending.length < r.batchSize)
    (sized : ∀ b ∈ batches, b ≠ [] ∧ b.length ≤ r.batchSize)
    (conserves : batches.flatten ++ (r?.map (·.pending)).getD [] = r.pending ++ more) :
    (s.handOver i r? batches).Keeps (log ++ more.map (fun x => (i, x))) := by
  have size : r.batchSize = s.batchSize := (keeps.room i r here).1
  have unchanged : (s.handOver i r? batches).batchSize = r.batchSize := size.symm
  have sent : (s.handOver i r? batches).sent = s.sent ++ batches.map (fun b => (i, b)) := rfl
  refine ⟨keeps.positive, ?_, ?_, ?_⟩
  · intro j r' there
    rw [recorder?_handOver here] at there
    by_cases same : j = i
    · rw [if_pos same] at there
      rw [unchanged]
      exact room r' there
    · rw [if_neg same] at there
      exact keeps.room j r' there
  · intro e member
    rw [sent, List.mem_append, List.mem_map] at member
    rcases member with old | ⟨b, new, rfl⟩
    · exact keeps.batches e old
    · rw [unchanged]
      exact sized b new
  · intro j
    have before := keeps.conserves j
    rw [sent, unbatched_append, through_append, unbatched_tagged, through_tagged, through_append,
      through_tagged, pendingAt, recorder?_handOver here]
    by_cases same : i = j
    · subst same
      have pending : s.pendingAt i = r.pending := by rw [pendingAt, here]; rfl
      rw [pending] at before
      rw [if_pos rfl, if_pos rfl, if_pos rfl, List.append_assoc, conserves, ← List.append_assoc,
        before]
    · rw [if_neg same, if_neg same, if_neg (Ne.symm same), List.append_nil, List.append_nil]
      exact before

theorem record_keeps {s : Session} {log : List (Nat × Record)} (keeps : s.Keeps log) (i : Nat)
    (x : Record) :
    (s.record i x).Keeps (log ++ if s.alive[i]? = some true then [(i, x)] else []) := by
  simp only [record]
  cases here : s.recorder? i with
  | none =>
    have gone : ¬ s.alive[i]? = some true := by
      rw [alive_of_recorder?, here]
      simp
    rw [if_neg gone, List.append_nil]
    exact keeps
  | some r =>
    obtain ⟨size, room⟩ := keeps.room i r here
    have alive : s.alive[i]? = some true := (alive_of_recorder? s i).mpr ⟨r, here⟩
    rw [if_pos alive]
    apply handOver_keeps keeps here [x]
    · rintro _ ⟨⟩
      exact ⟨r.emit_batchSize x, Recorder.emit_pending_lt (size ▸ keeps.positive) x⟩
    · intro b member
      exact Recorder.mem_emit (size ▸ room) member
    · exact r.emit_flatten x

theorem flush_handOver_keeps {s : Session} {log : List (Nat × Record)} (keeps : s.Keeps log)
    {i : Nat} {r : Recorder} (here : s.recorder? i = some r) {r? : Option Recorder}
    (left : ∀ r', r? = some r' → r' = r.flush.1) :
    (s.handOver i r? r.flush.2).Keeps log := by
  obtain ⟨size, room⟩ := keeps.room i r here
  have none_left : (r?.map (·.pending)).getD [] = [] := by
    cases r? with
    | none => rfl
    | some r' => exact left r' rfl ▸ r.flush_pending
  rw [← List.append_nil log]
  apply handOver_keeps keeps here []
  · intro r' there
    rw [left r' there, r.flush_pending]
    exact ⟨r.flush_batchSize, size ▸ keeps.positive⟩
  · intro b member
    obtain ⟨rfl, some_left⟩ := Recorder.mem_flush member
    rw [size]
    exact ⟨some_left, Nat.le_of_lt room⟩
  · rw [none_left, r.flush_flatten]

theorem flush_keeps {s : Session} {log : List (Nat × Record)} (keeps : s.Keeps log) (i : Nat) :
    (s.flush i).Keeps log := by
  simp only [flush]
  cases here : s.recorder? i with
  | none => exact keeps
  | some r => exact flush_handOver_keeps keeps here (fun _ there => (Option.some.inj there).symm)

theorem drop_keeps {s : Session} {log : List (Nat × Record)} (keeps : s.Keeps log) (i : Nat) :
    (s.drop i).Keeps log := by
  simp only [drop]
  cases here : s.recorder? i with
  | none => exact keeps
  | some r => exact flush_handOver_keeps keeps here (fun _ there => by cases there)

theorem alive_handOver (s : Session) (i : Nat) (r? : Option Recorder) (batches : List Batch) :
    (s.handOver i r? batches).alive = s.alive.set i r?.isSome := by
  simp [alive, handOver, List.map_set]

theorem alive_handOver_some {s : Session} {i : Nat} {r : Recorder}
    (here : s.recorder? i = some r) (r' : Recorder) (batches : List Batch) :
    (s.handOver i (some r') batches).alive = s.alive := by
  have alive : s.alive[i]? = some true := (alive_of_recorder? s i).mpr ⟨r, here⟩
  obtain ⟨bound, place⟩ := List.getElem?_eq_some_iff.mp alive
  rw [alive_handOver, Option.isSome_some, ← place]
  exact List.set_getElem_self bound

theorem set_not_alive {s : Session} {i : Nat} (gone : s.recorder? i = none) :
    s.alive.set i false = s.alive := by
  apply List.ext_getElem?
  intro j
  rw [List.getElem?_set]
  split
  next same =>
    subst same
    split
    next bound =>
      have dead : ¬ s.alive[i]? = some true := by
        rw [alive_of_recorder?, gone]
        simp
      cases flag : s.alive[i] with
      | true => exact absurd (List.getElem?_eq_some_iff.mpr ⟨bound, flag⟩) dead
      | false => exact (List.getElem?_eq_some_iff.mpr ⟨bound, flag⟩).symm
    next out => exact (List.getElem?_eq_none (Nat.le_of_not_lt out)).symm
  next => rfl

theorem alive_record (s : Session) (i : Nat) (x : Record) : (s.record i x).alive = s.alive := by
  simp only [record]
  cases here : s.recorder? i with
  | none => rfl
  | some r => exact alive_handOver_some here _ _

theorem alive_flush (s : Session) (i : Nat) : (s.flush i).alive = s.alive := by
  simp only [flush]
  cases here : s.recorder? i with
  | none => rfl
  | some r => exact alive_handOver_some here _ _

theorem alive_drop (s : Session) (i : Nat) : (s.drop i).alive = s.alive.set i false := by
  simp only [drop]
  cases here : s.recorder? i with
  | none => exact (set_not_alive here).symm
  | some r => exact s.alive_handOver i _ _

theorem alive_step (s : Session) (step : SessionStep) :
    (s.step step).alive = step.leaves s.alive := by
  cases step with
  | recorder => simp [Session.step, alive, SessionStep.leaves]
  | emit i x => exact s.alive_record i x
  | cpuCounter i ts cpu signal value => exact s.alive_record i _
  | taskCounter i ts name pid signal value => exact s.alive_record i _
  | flush i => exact s.alive_flush i
  | drop i => exact s.alive_drop i

theorem newRecorder_keeps {s : Session} {log : List (Nat × Record)} (keeps : s.Keeps log) :
    (s.step .recorder).Keeps log := by
  have place (i : Nat) : (s.step .recorder).recorder? i =
      if i = s.recorders.length then some (.fresh s.batchSize) else s.recorder? i := by
    simp only [Session.step, recorder?]
    rw [List.getElem?_append]
    split
    next before => rw [if_neg (Nat.ne_of_lt before)]
    next after =>
      by_cases last : i = s.recorders.length
      · simp [last]
      · have past : s.recorders.length < i := by omega
        rw [if_neg last, List.getElem?_eq_none (Nat.le_of_lt past)]
        simp only [List.getElem?_singleton]
        rw [if_neg (by omega)]
  refine ⟨keeps.positive, ?_, keeps.batches, ?_⟩
  · intro i r here
    rw [place] at here
    split at here
    · cases here
      exact ⟨rfl, keeps.positive⟩
    · exact keeps.room i r here
  · intro i
    have nothing_new : (s.step .recorder).pendingAt i = s.pendingAt i := by
      simp only [pendingAt]
      rw [place]
      split
      next last =>
        have unmade : s.recorder? i = none := by
          rw [recorder?, last, List.getElem?_eq_none (Nat.le_refl _)]
          rfl
        rw [unmade]
        rfl
      next => rfl
    rw [nothing_new]
    exact keeps.conserves i

theorem step_keeps {s : Session} {log : List (Nat × Record)} (keeps : s.Keeps log)
    (step : SessionStep) : (s.step step).Keeps (log ++ step.emits s.alive) := by
  cases step with
  | recorder =>
    rw [SessionStep.emits, SessionStep.emission?, List.append_nil]
    exact newRecorder_keeps keeps
  | emit i x => exact record_keeps keeps i x
  | cpuCounter i ts cpu signal value => exact record_keeps keeps i _
  | taskCounter i ts name pid signal value => exact record_keeps keeps i _
  | flush i =>
    show (s.flush i).Keeps (log ++ [])
    rw [List.append_nil]
    exact flush_keeps keeps i
  | drop i =>
    show (s.drop i).Keeps (log ++ [])
    rw [List.append_nil]
    exact drop_keeps keeps i

theorem run_keeps {s : Session} {log : List (Nat × Record)} (keeps : s.Keeps log)
    (steps : List SessionStep) : (s.run steps).Keeps (log ++ emissions s.alive steps) := by
  -- The log grows with the session: what a step emits depends on the recorders alive before it.
  induction steps generalizing s log with
  | nil => simpa [run, emissions] using keeps
  | cons step rest ih =>
    have later := ih (step_keeps keeps step)
    rw [alive_step, List.append_assoc] at later
    exact later

theorem foldl_drop_keeps {s : Session} {log : List (Nat × Record)} (keeps : s.Keeps log)
    (numbers : List Nat) : (numbers.foldl drop s).Keeps log := by
  induction numbers generalizing s with
  | nil => exact keeps
  | cons i rest ih => exact ih (drop_keeps keeps i)

theorem dropAll_keeps {s : Session} {log : List (Nat × Record)} (keeps : s.Keeps log) :
    s.dropAll.Keeps log :=
  foldl_drop_keeps keeps _

theorem recorder?_drop (s : Session) (i j : Nat) :
    (s.drop i).recorder? j = if j = i then none else s.recorder? j := by
  simp only [drop]
  cases here : s.recorder? i with
  | none =>
    by_cases same : j = i
    · rw [if_pos same, same, here]
    · rw [if_neg same]
  | some r => exact recorder?_handOver here none _ j

theorem recorder?_foldl_drop (s : Session) (numbers : List Nat) (j : Nat) :
    (numbers.foldl drop s).recorder? j = if j ∈ numbers then none else s.recorder? j := by
  induction numbers generalizing s with
  | nil => simp
  | cons i rest ih =>
    rw [List.foldl_cons, ih, recorder?_drop]
    by_cases later : j ∈ rest
    · simp [later]
    · by_cases same : j = i <;> simp [later, same]

theorem recorder?_dropAll (s : Session) (i : Nat) : s.dropAll.recorder? i = none := by
  rw [dropAll, recorder?_foldl_drop]
  split
  next => rfl
  next out =>
    have past : s.recorders.length ≤ i := by simpa using out
    rw [recorder?, List.getElem?_eq_none past]
    rfl

theorem step_frame (s : Session) (step : SessionStep) :
    (s.step step).writer = s.writer ∧ (s.step step).batchSize = s.batchSize := by
  cases step with
  | recorder => exact ⟨rfl, rfl⟩
  | emit | cpuCounter | taskCounter =>
    simp only [Session.step, record]
    split <;> exact ⟨rfl, rfl⟩
  | flush =>
    simp only [Session.step, flush]
    split <;> exact ⟨rfl, rfl⟩
  | drop =>
    simp only [Session.step, drop]
    split <;> exact ⟨rfl, rfl⟩

theorem run_frame (s : Session) (steps : List SessionStep) :
    (s.run steps).writer = s.writer ∧ (s.run steps).batchSize = s.batchSize := by
  induction steps generalizing s with
  | nil => exact ⟨rfl, rfl⟩
  | cons step rest ih =>
    obtain ⟨writer, size⟩ := s.step_frame step
    obtain ⟨later_writer, later_size⟩ := ih (s.step step)
    exact ⟨later_writer.trans writer, later_size.trans size⟩

theorem dropAll_frame (s : Session) :
    s.dropAll.writer = s.writer ∧ s.dropAll.batchSize = s.batchSize := by
  have steps : s.dropAll = s.run ((List.range s.recorders.length).map .drop) := by
    rw [dropAll, run, List.foldl_map]
    rfl
  rw [steps]
  exact s.run_frame _

theorem Keeps.sent_eq {s : Session} {log : List (Nat × Record)} (keeps : s.Keeps log)
    (gone : ∀ i, s.recorder? i = none) (i : Nat) :
    through i (unbatched s.sent) = through i log := by
  have conserves := keeps.conserves i
  rw [pendingAt, gone] at conserves
  exact (List.append_nil _).symm.trans conserves

structure Complete (s : Session) (format : TraceFormat) (batchSize : Nat)
    (log : List (Nat × Record)) : Prop where
  gone : ∀ i, s.recorder? i = none
  batches : ∀ e ∈ s.sent, e.2 ≠ [] ∧ e.2.length ≤ batchSize
  conserves : ∀ i, (s.sent.filter (fun e => e.1 = i)).flatMap (·.2) = through i log
  written : s.stop.sink.held = traceBytes format (s.sent.flatMap (·.2))
  counted : s.stop.result = .ok log.length

theorem Keeps.complete {s : Session} {format : TraceFormat} {log : List (Nat × Record)}
    (keeps : s.Keeps log) (gone : ∀ i, s.recorder? i = none) (opened : s.writer.Opened format) :
    s.Complete format s.batchSize log := by
  have sent := keeps.sent_eq gone
  refine ⟨gone, keeps.batches, ?_, stop_held opened, ?_⟩
  · intro i
    rw [← through_unbatched]
    exact sent i
  · have size : (unbatched s.sent).length = log.length := (perm_of_through_eq sent).length_eq
    rw [stop_counts opened, ← unbatched_records, List.length_map, size]

end Session

end SchedTelemetry
