import SchedTelemetry.Proofs.Completion
import SchedTelemetry.Proofs.Utf8

set_option autoImplicit false

namespace SchedTelemetry

namespace System

variable {plan : Plan} {format : TraceFormat} {n : Nat} {s : System}

-- A writer that has caught up with more than its sink and the buffer hold has not got there alive.
theorem Sound.writer_ended (sound : s.Sound plan format (some n)) (going : s.stage.closed = false)
    (idle : s.writer.step? = none)
    (beyond : n + BufferedSink.capacity + (TraceWriter.tailBytes format).length <
      (traceBytes format s.handed).length) : ∃ trace, s.writer = .ended trace := by
  have follows := (sound.follows going).1
  cases writer : s.writer with
  | ended trace => exact ⟨trace, rfl⟩
  | running w inHand queue =>
    have caught_up : inHand = [] ∧ queue = [] := by
      rw [writer] at idle
      exact WriterThread.step?_running_eq_none.mp idle
    obtain ⟨rfl, rfl⟩ := caught_up
    have done : (s.session.writer.writeAll s.handed).failure = none := by
      rw [← follows, writer]
      rfl
    have size := congrArg List.length (sound.begun.traceBytes_eq s.handed)
    rw [List.length_append, List.length_append] at size
    have within := sound.within
    rw [Sink.admits_some] at within
    have fails := (s.session.writer.writeAll_adds s.handed).fails sound.limit_eq within
      sound.begun.small (by omega)
    exact absurd done fails

theorem step_of_ended (ended : ∃ trace, s.writer = .ended trace) (a : Action) :
    (∃ trace, (s.step a).writer = .ended trace) ∧ (s.step a).sent = s.sent := by
  obtain ⟨trace, writer⟩ := ended
  cases a with
  | coordinate =>
    have moves := s.moves_coordinate
    show (∃ trace, s.coordinate.writer = .ended trace) ∧ s.coordinate.sent = s.sent
    generalize s.coordinate = t at moves ⊢
    cases moves with
    | closed =>
      simp only [stopSession]
      split <;> exact ⟨⟨_, rfl⟩, rfl⟩
    | _ => exact ⟨⟨trace, writer⟩, rfl⟩
  | work c =>
    cases worked : s.work? c with
    | none =>
      rw [step_of_stuck worked]
      exact ⟨⟨trace, writer⟩, rfl⟩
    | some s' =>
      rw [step_of_worked worked]
      cases works_of_work? worked with
      | advanced | dropped => exact ⟨⟨trace, writer⟩, rfl⟩
      | sent _ _ running =>
        rw [writer] at running
        cases running
  | write =>
    have stuck : s.write? = none := by simp [write?, writer, WriterThread.step?]
    rw [step_of_write?_none stuck]
    exact ⟨⟨trace, writer⟩, rfl⟩
  | raise => exact ⟨⟨trace, writer⟩, rfl⟩

/-- Whatever is handed over after the writer has run over the limit of its sink is lost. -/
theorem sent_of_ended (ended : ∃ trace, s.writer = .ended trace) (actions : List Action) :
    (s.run actions).sent = s.sent := by
  induction actions generalizing s with
  | nil => rfl
  | cons a rest ih =>
    obtain ⟨still, same⟩ := step_of_ended ended a
    exact (ih still).trans same

theorem run_acquiring (s : System) (built rest : List Channel)
    (available : ∀ c ∈ rest, (s.plan.scripts.get c).unavailable = none) :
    ({ s with stage := .acquiring built rest } : System).run
        (List.replicate rest.length .coordinate) =
      { s with stage := .acquiring (built ++ rest) [] } := by
  induction rest generalizing built with
  | nil =>
    rw [List.append_nil]
    rfl
  | cons c rest ih =>
    have first : ({ s with stage := .acquiring built (c :: rest) } : System).coordinate =
        { s with stage := .acquiring (built ++ [c]) rest } := by
      simp only [coordinate, available c List.mem_cons_self]
    have later := ih (built ++ [c]) (fun d listed => available d (List.mem_cons_of_mem _ listed))
    rw [List.append_assoc, List.singleton_append, ← first] at later
    exact later

theorem run_starting (s : System) (rest : List Channel)
    (starts : ∀ c ∈ rest, (s.plan.scripts.get c).startFailure = none) :
    ({ s with stage := .starting rest } : System).run (List.replicate rest.length .coordinate) =
      { rest.foldl startWorker s with stage := .starting [] } := by
  induction rest generalizing s with
  | nil => rfl
  | cons c rest ih =>
    have first : ({ s with stage := .starting (c :: rest) } : System).coordinate =
        { s.startWorker c with stage := .starting rest } := by
      simp only [coordinate, starts c List.mem_cons_self]
      rfl
    have later := ih (s.startWorker c) (fun d listed => starts d (List.mem_cons_of_mem _ listed))
    rw [← first] at later
    exact later

def setupSteps : List Action := List.replicate (Channel.all.length + 1 + Channel.all.length) .coordinate

theorem run_setup {plan : Plan} (ready : plan.Ready) (session : Session) :
    (initial plan session false).run setupSteps =
      { Channel.all.foldl startWorker (initial plan session false) with stage := .starting [] } := by
  have acquired := run_acquiring (initial plan session false) [] Channel.all (fun c _ => (ready c).1)
  have started := run_starting (initial plan session false) Channel.all (fun c _ => (ready c).2)
  have gathered (s : System) (built : List Channel) :
      ({ s with stage := .acquiring built [] } : System).run [.coordinate] =
        { s with stage := .starting built } := rfl
  have begins : ({ initial plan session false with stage := .acquiring [] Channel.all } : System) =
      initial plan session false := rfl
  rw [begins, List.nil_append] at acquired
  rw [setupSteps, List.replicate_add, List.replicate_add, run_append, run_append, acquired,
    List.replicate_one, gathered, started]

theorem step_of_advanced {s : System} {c : Channel} {w w' : Worker} (here : s.workers.get c = some w)
    (stepped : w.step? s.raised = some (w', none)) : s.step (.work c) = s.setWorker c w' := by
  simp [step, work?, here, stepped]

theorem get_setWorker (s : System) (c : Channel) (w : Worker) :
    (s.setWorker c w).workers.get c = some w := by
  simp [setWorker]

theorem setWorker_setWorker (s : System) (c : Channel) (v w : Worker) :
    (s.setWorker c v).setWorker c w = s.setWorker c w := by
  cases c <;> rfl

theorem first_batch {s : System} {c : Channel} {script : ChannelScript} {setup : Setup}
    {raw : List UInt8} {raws : List (List UInt8)} {polls : List Poll} {r : Record} {t : TraceWriter}
    (here : s.workers.get c = some (.fresh c script setup 1)) (opens : script.openFailure = none)
    (delivers : script.polls = .delivered (raw :: raws) :: polls)
    (gives : Processor.recordsOf c setup raw = [r]) (calm : s.raised = false)
    (idle : s.writer = .running t [] []) :
    ∃ w, s.run (List.replicate 4 (.work c)) =
      (s.setWorker c w).sends c [r] (.running t [] [[r]]) := by
  let w₀ : Worker := .fresh c script setup 1
  let w₁ : Worker := { w₀ with stage := .polling }
  let w₂ : Worker := { w₁.beginPoll polls with stage := .delivering (raw :: raws) }
  let w₃ : Worker := { w₂.consume raw with stage := .delivering raws }
  have opened : w₀.step? false = some (w₁, none) := by
    simp [w₀, w₁, Worker.step?, Worker.advance?, Worker.fresh, opens]
  have polled : w₁.step? false = some (w₂, none) := by
    simp [w₀, w₁, w₂, Worker.step?, Worker.advance?, Worker.fresh, Worker.poll, delivers]
  have consumed : w₂.step? false = some (w₃, none) := by
    simp [w₀, w₁, w₂, w₃, Worker.step?, Worker.advance?, Worker.fresh, Worker.beginPoll]
  have outbox : w₃.outbox = [[r]] := by
    have records : (w₂.processor.consume raw).2.records = [r] :=
      (w₂.processor.consume_records raw).trans gives
    show [] ++ ((Recorder.fresh 1).emitAll (w₂.processor.consume raw).2.records).2 = [[r]]
    rw [records]
    rfl
  have handed : w₃.step? false = some ({ w₃ with outbox := [] }, some [r]) := by
    simp [Worker.step?, outbox]
  have s₁ : s.step (.work c) = s.setWorker c w₁ :=
    step_of_advanced here (calm ▸ opened)
  have s₂ : (s.setWorker c w₁).step (.work c) = s.setWorker c w₂ :=
    (step_of_advanced (get_setWorker ..) (calm ▸ polled)).trans (setWorker_setWorker ..)
  have s₃ : (s.setWorker c w₂).step (.work c) = s.setWorker c w₃ :=
    (step_of_advanced (get_setWorker ..) (calm ▸ consumed)).trans (setWorker_setWorker ..)
  have s₄ : (s.setWorker c w₃).step (.work c) =
      (s.setWorker c { w₃ with outbox := [] }).sends c [r] (.running t [] [[r]]) := by
    have raised : (s.setWorker c w₃).raised = false := calm
    have writer : (s.setWorker c w₃).writer = .running t [] [] := idle
    simp [step, work?, get_setWorker, raised, handed, writer, WriterThread.offer,
      WriterThread.queueDepth, setWorker_setWorker]
  refine ⟨{ w₃ with outbox := [] }, ?_⟩
  rw [← s₄, ← s₃, ← s₂, ← s₁]
  rfl

theorem two_writes {t : TraceWriter} {r : Record} (writer : s.writer = .running t [] [[r]]) :
    (s.run [.write, .write]).writer.step? = none ∧
      s.run [.write, .write] = { s with writer := (s.run [.write, .write]).writer } := by
  have received : s.step .write = { s with writer := .running t [r] [] } := by
    simp [step, write?, writer, WriterThread.step?]
  have run : s.run [.write, .write] = (s.step .write).step .write := rfl
  rw [run, received]
  cases written : t.write r with
  | mk v failure =>
    cases failure <;> simp [step, write?, WriterThread.step?, written]

/-- The writer can end with the first record, and then every other record is lost. -/
theorem lost_once_overrun (ready : plan.Ready) {c : Channel} {raw : List UInt8}
    {raws : List (List UInt8)} {polls : List Poll} {r : Record}
    (opens : (plan.scripts.get c).openFailure = none)
    (delivers : (plan.scripts.get c).polls = .delivered (raw :: raws) :: polls)
    (gives : Processor.recordsOf c plan.setup raw = [r])
    (beyond : n + BufferedSink.capacity + (TraceWriter.tailBytes format).length <
      (traceBytes format [r]).length) :
    ∃ session actions result, Session.start (.create (.limited n) format) 1 = .ok session ∧
      (initial plan session false).Punctual actions ∧
      ((initial plan session false).run actions).stage = .finished result ∧
      ((initial plan session false).run actions).sent = [(c, [r])] := by
  obtain ⟨w, begun, sink, started⟩ := Session.start_fresh (.limited n) rfl format 1
  let s : System := initial plan ⟨w, 1, [], []⟩ false
  have within : Sink.Admits w.out.sink.limit w.out.sink.held.length := by
    rw [sink]
    exact Sink.admits_nothing _
  have limit : w.out.sink.limit = some n := by
    rw [sink]
    rfl
  have sound := initial_sound_of_begun plan ⟨w, 1, [], []⟩ begun within rfl
  let u : System := { Channel.all.foldl startWorker s with stage := .starting [] }
  have here : u.workers.get c = some (.fresh c (plan.scripts.get c) plan.setup 1) := by
    cases c <;> rfl
  obtain ⟨v, handed⟩ := first_batch here opens delivers gives rfl rfl
  let t : System := (u.setWorker c v).sends c [r] (.running w [] [[r]])
  obtain ⟨caught_up, written⟩ := two_writes (s := t) rfl
  let first : List Action := setupSteps ++ List.replicate 4 (.work c) ++ [.write, .write]
  have ran : s.run first = t.run [.write, .write] := by
    rw [run_append, run_append, run_setup ready, handed]
  have calm : s.Punctual first := punctual_of_calm (by simp [first, setupSteps])
  have sound' : (s.run first).Sound plan format (some n) := limit ▸ sound.run ready calm.patient
  have going : (s.run first).stage.closed = false := by
    rw [ran, written]
    rfl
  have sent : (s.run first).sent = [(c, [r])] := by
    rw [ran, written]
    rfl
  have lost : (s.run first).lost = [] := by
    rw [ran, written]
    rfl
  have records : (s.run first).handed = [r] := by
    simp [System.handed, handOvers, sent, lost]
  have ended := sound'.writer_ended going (ran ▸ caught_up) (records ▸ beyond)
  obtain ⟨-, result, finished⟩ := sound'.runToEnd_finishes ready
  obtain ⟨more, in_time, attained⟩ := runToEnd_attains (s.run first)
  refine ⟨_, first ++ more, result, started, punctual_append.mpr ⟨calm, in_time⟩, ?_, ?_⟩
  · show (s.run (first ++ more)).stage = _
    rw [run_append, attained]
    exact finished
  · show (s.run (first ++ more)).sent = _
    rw [run_append, sent_of_ended ended, sent]

end System

theorem SymbolTable.resolve_only (address : UInt64) (name : String) :
    (SymbolTable.ofSymbols [(address, name)]).resolve address = some name := by
  simp [resolve, boundary, boundaryIn, ofSymbols, lastSpan]

-- An IPI at time 1 from CPU 0 to CPU 1, with its call site at address 1.
def callOctets : List UInt8 :=
  [1, 0, 0, 0, 0, 0, 0, 0, 0, 0, 0, 0, 1, 0, 0, 0, 1, 0, 0, 0, 0, 0, 0, 0, 0, 0, 0, 0, 0, 0, 0, 0]

-- The call site is in a function whose name has `n` letters.
def wordy (n : Nat) : Plan where
  setup := ⟨.every, .empty, .ofSymbols [(1, String.ofList (List.replicate n 'a'))]⟩
  scripts := .ofFn fun
    | .ipi => ⟨none, none, none, [.delivered [callOctets, callOctets]]⟩
    | _ => .idle

theorem wordy_ready (n : Nat) : (wordy n).Ready := by
  intro c
  cases c <;> exact ⟨rfl, rfl⟩

def wordyCall (n : Nat) : Record :=
  ⟨1, .ipi 0 1 ((wordy n).setup.symbols.locate 1) ((wordy n).setup.symbols.locate 0)⟩

theorem wordy_records (n : Nat) :
    Processor.recordsOf .ipi (wordy n).setup callOctets = [wordyCall n] := by
  have decoded : Event.decode .ipi callOctets = .ok (.ipi ⟨1, 0, 1, 1, 0⟩) := rfl
  rw [Processor.recordsOf, decoded]
  rfl

theorem wordy_expected (n : Nat) : (wordy n).expected .ipi = [wordyCall n, wordyCall n] := by
  have raws : ((wordy n).scripts.get .ipi).raws = [callOctets, callOctets] := rfl
  have records := wordy_records n
  rw [Plan.expected, raws, Processor.emitted_eq_flatMap]
  show [callOctets, callOctets].flatMap (Processor.recordsOf .ipi (wordy n).setup) = _
  simp [records]

theorem wordy_size (n : Nat) : n ≤ (traceBytes .json [wordyCall n]).length := by
  have letters : (List.replicate n 'a').flatMap Json.escapeChar = List.replicate n 'a' := by
    induction n with
    | zero => rfl
    | succ n ih =>
      rw [List.replicate_succ, List.flatMap_cons, ih]
      rfl
  have name : (SymbolTable.ofSymbols [(1, String.ofList (List.replicate n 'a'))]).resolve 1 = _ :=
    SymbolTable.resolve_only 1 _
  refine Nat.le_trans ?_ (Utf8.length_le_encodeChars _)
  simp only [jsonBody, wordyCall, wordy, Record.jsonText, Record.toJson, Observation.members,
    Json.text, Json.membersText, CodeAddress.toJson, SymbolTable.locate, name, Option.map,
    Option.getD, Json.stringText, String.toList_ofList, letters, List.length_append,
    List.length_cons, List.length_replicate]
  omega

-- The writer ends with the first of the two calls, and the other one is lost.
theorem System.wordy_loses : ∃ session actions result,
    Session.start (.create (.limited 1) .json) 1 = .ok session ∧
      (initial (wordy 70000) session false).Punctual actions ∧
      ((initial (wordy 70000) session false).run actions).stage = .finished result ∧
      ((initial (wordy 70000) session false).run actions).sent = [(.ipi, [wordyCall 70000])] := by
  have size := wordy_size 70000
  have tail : (TraceWriter.tailBytes .json).length = 3 := rfl
  have room : BufferedSink.capacity = 65536 := rfl
  exact lost_once_overrun (wordy_ready 70000) rfl rfl (wordy_records 70000) (by omega)

end SchedTelemetry
