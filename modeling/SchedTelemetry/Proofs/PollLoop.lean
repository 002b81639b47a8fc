import SchedTelemetry.Proofs.Accounting
import SchedTelemetry.Proofs.Requests

set_option autoImplicit false

namespace SchedTelemetry

inductive PollIncident where
  | polled (outcome : Poll)
  | passed (raw : List UInt8)
  deriving DecidableEq

namespace PollIncident

def poll? : PollIncident → Option Poll
  | .polled outcome => some outcome
  | .passed _ => none

def raw? : PollIncident → Option (List UInt8)
  | .polled _ => none
  | .passed raw => some raw

end PollIncident

def pollsMade (h : List PollIncident) : List Poll := h.filterMap PollIncident.poll?

def rawsPassed (h : List PollIncident) : List (List UInt8) := h.filterMap PollIncident.raw?

namespace Poll

-- The outcome of a poll that finds the channel idle and lasts until the stop flag is up.
def idle : Poll := .delivered []

def raws : Poll → List (List UInt8)
  | .delivered raws => raws
  | _ => []

def incidents (p : Poll) : List PollIncident := .polled p :: p.raws.map .passed

end Poll

section histories

variable (h : List PollIncident)

@[simp] theorem pollsMade_nil : pollsMade [] = [] := rfl

@[simp] theorem pollsMade_append (g : List PollIncident) :
    pollsMade (h ++ g) = pollsMade h ++ pollsMade g :=
  List.filterMap_append

@[simp] theorem rawsPassed_append (g : List PollIncident) :
    rawsPassed (h ++ g) = rawsPassed h ++ rawsPassed g :=
  List.filterMap_append

@[simp] theorem pollsMade_polled (p : Poll) : pollsMade [.polled p] = [p] := rfl

@[simp] theorem pollsMade_passed (raw : List UInt8) : pollsMade [.passed raw] = [] := rfl

@[simp] theorem rawsPassed_polled (p : Poll) : rawsPassed [.polled p] = [] := rfl

@[simp] theorem rawsPassed_passed (raw : List UInt8) : rawsPassed [.passed raw] = [raw] := rfl

theorem rawsPassed_incidents (polls : List Poll) :
    rawsPassed (polls.flatMap Poll.incidents) = polls.flatMap Poll.raws := by
  have one (p : Poll) : rawsPassed p.incidents = p.raws := by
    simp [rawsPassed, Poll.incidents, List.filterMap_cons, List.filterMap_map, PollIncident.raw?,
      Function.comp_def]
  induction polls with
  | nil => rfl
  | cons p rest ih => rw [List.flatMap_cons, List.flatMap_cons, rawsPassed_append, one, ih]

end histories

theorem taken_append {made : List Poll} (none_last : ∀ p ∈ made, p.isLast = false) (rest : List Poll) :
    taken (made ++ rest) = made ++ taken rest := by
  induction made with
  | nil => rfl
  | cons p more ih =>
    have going : p.isLast = false := none_last p List.mem_cons_self
    rw [List.cons_append, taken, if_neg (by simp [going]),
      ih fun q member => none_last q (List.mem_cons_of_mem p member)]
    rfl

theorem taken_last {p : Poll} (last : p.isLast = true) (rest : List Poll) : taken (p :: rest) = [p] := by
  rw [taken, if_pos last]

namespace Worker

def incidents (raised : Bool) (w : Worker) : List PollIncident :=
  match w.outbox, w.stage with
  | [], .polling => if raised then [] else [.polled (w.script.polls.headD .idle)]
  | [], .delivering (raw :: _) => [.passed raw]
  | _, _ => []

def stepped (raised : Bool) (w : Worker) : Worker :=
  ((w.step? raised).map Prod.fst).getD w

theorem stepped_of_stuck {w : Worker} {raised : Bool} (stuck : w.step? raised = none) :
    w.stepped raised = w := by
  rw [stepped, stuck]
  rfl

theorem stepped_of_step {w w' : Worker} {raised : Bool} {batch? : Option Batch}
    (step : w.step? raised = some (w', batch?)) : w.stepped raised = w' := by
  rw [stepped, step]
  rfl

def after (w : Worker) : List Bool → Worker
  | [] => w
  | raised :: rest => (w.stepped raised).after rest

def history (w : Worker) : List Bool → List PollIncident
  | [] => []
  | raised :: rest => w.incidents raised ++ (w.stepped raised).history rest

def ahead (w : Worker) : List Poll :=
  match w.stage with
  | .opening => w.script.polls ++ [.idle]
  | .polling => w.script.polls ++ [.idle]
  | .delivering _ => w.script.polls ++ [.idle]
  | .waiting => []
  | .ended => []
  | .panicked => []

-- What a worker has to show for what has happened at its channel.
structure Accounts (p : Processor) (h : List PollIncident) (w : Worker) : Prop where
  incidents : h ++ w.underWay.map .passed = (pollsMade h).flatMap Poll.incidents
  processor : w.processor = p.after ((rawsPassed h).map .consume)
  polls : w.polls = (pollsMade h).length
  interrupted : w.interrupted = (pollsMade h).count .interrupted
  failed : w.failed = true ↔ ∃ cause, (pollsMade h).getLast? = some (.failed cause)

-- Where the loop has come among the outcomes of its polls.
structure Loops (outcomes : List Poll) (told : Prop) (p : Processor) (h : List PollIncident)
    (w : Worker) : Prop where
  accounts : w.Accounts p h
  opens : w.stage = .opening → w.script.openFailure = none
  going : ¬ w.isOver →
    (∀ q ∈ pollsMade h, q.isLast = false) ∧ pollsMade h ++ w.ahead = outcomes
  halted : w.isOver →
    pollsMade h <+: taken outcomes ∧
      (told ∨ pollsMade h = taken outcomes ∧ (pollsMade h).getLast?.any Poll.isLast = true)

section loops

variable {outcomes : List Poll} {told : Prop} {p : Processor} {h : List PollIncident} {w w' : Worker}

theorem Accounts.not_failed (accounts : w.Accounts p h)
    (none_last : ∀ q ∈ pollsMade h, q.isLast = false) : w.failed = false := by
  cases failed : w.failed with
  | false => rfl
  | true =>
    obtain ⟨cause, last⟩ := accounts.failed.mp failed
    have going := none_last _ (List.mem_of_getLast? last)
    simp [Poll.isLast, Poll.isFailure] at going

theorem Accounts.polled (accounts : w.Accounts p h) (at_head : w.underWay = []) {q : Poll}
    (processor : w'.processor = w.processor) (polls : w'.polls = w.polls + 1)
    (interrupted : w'.interrupted = w.interrupted + [q].count .interrupted)
    (under_way : w'.underWay = q.raws) (failed : w'.failed = true ↔ ∃ cause, q = .failed cause) :
    w'.Accounts p (h ++ [.polled q]) where
  incidents := by
    have before := accounts.incidents
    rw [at_head, List.map_nil, List.append_nil] at before
    simp [under_way, ← before, Poll.incidents]
  processor := by simpa [processor] using accounts.processor
  polls := by simp [polls, accounts.polls]
  interrupted := by simp [interrupted, accounts.interrupted]
  failed := by simp [failed]

theorem Accounts.goes_on {q : Poll} (accounts : w.Accounts p (h ++ [.polled q]))
    (none_last : ∀ r ∈ pollsMade h, r.isLast = false) (outcomes_eq : pollsMade h ++ q :: w.ahead = outcomes)
    (going : q.isLast = false) (not_opening : w.stage ≠ .opening) (not_halted : ¬ w.isOver) :
    w.Loops outcomes told p (h ++ [.polled q]) where
  accounts := accounts
  opens opening := absurd opening not_opening
  going := by
    intro _
    rw [pollsMade_append, pollsMade_polled, List.append_assoc]
    refine ⟨?_, outcomes_eq⟩
    intro r member
    rcases List.mem_append.mp member with before | now
    · exact none_last r before
    · rwa [List.mem_singleton.mp now]
  halted halted := absurd halted not_halted

theorem Accounts.ends {q : Poll} {rest : List Poll} (accounts : w.Accounts p (h ++ [.polled q]))
    (none_last : ∀ r ∈ pollsMade h, r.isLast = false) (outcomes_eq : pollsMade h ++ q :: rest = outcomes)
    (last : q.isLast = true) (halted : w.isOver) : w.Loops outcomes told p (h ++ [.polled q]) where
  accounts := accounts
  opens opening := by rcases halted with ended | panicked <;> simp_all
  going going := absurd halted going
  halted := by
    intro _
    have all : pollsMade (h ++ [.polled q]) = taken outcomes := by
      rw [← outcomes_eq, taken_append none_last, taken_last last, pollsMade_append, pollsMade_polled]
    refine ⟨all ▸ List.prefix_rfl, .inr ⟨all, ?_⟩⟩
    simp [last]

theorem Loops.poll (loops : w.Loops outcomes told p h) (stage : w.stage = .polling) :
    w.poll.Loops outcomes told p (h ++ [.polled (w.script.polls.headD .idle)]) := by
  have at_head : w.underWay = [] := by simp [underWay, stage]
  have ahead : w.ahead = w.script.polls ++ [.idle] := by simp [Worker.ahead, stage]
  obtain ⟨none_last, outcomes_eq⟩ := loops.going (by simp [isOver, stage])
  have not_failed := loops.accounts.not_failed none_last
  rw [ahead] at outcomes_eq
  have polls := w.polls_poll
  generalize w.poll = v at polls ⊢
  cases polls with
  | idled polls =>
    rw [polls] at outcomes_eq ⊢
    refine Accounts.goes_on ?_ none_last outcomes_eq rfl (by simp) ?_
    · refine loops.accounts.polled at_head rfl rfl rfl rfl ?_
      simp [beginPoll, not_failed, Poll.idle]
    · simp [isOver]
  | received polls =>
    rw [polls] at outcomes_eq ⊢
    refine Accounts.goes_on ?_ none_last outcomes_eq rfl (by simp) ?_
    · refine loops.accounts.polled at_head rfl rfl rfl rfl ?_
      simp [beginPoll, not_failed]
    · simp [isOver]
  | @interrupted rest polls =>
    rw [polls] at outcomes_eq ⊢
    have on : ({ w.beginPoll rest with interrupted := w.interrupted + 1 } : Worker).ahead =
        rest ++ [.idle] := by
      simp [Worker.ahead, beginPoll, stage]
    refine Accounts.goes_on ?_ none_last (on ▸ outcomes_eq) rfl ?_ ?_
    · refine loops.accounts.polled at_head rfl rfl rfl at_head ?_
      simp [beginPoll, not_failed]
    · simp [beginPoll, stage]
    · simp [isOver, beginPoll, stage]
  | failed polls =>
    rw [polls] at outcomes_eq ⊢
    refine Accounts.ends ?_ none_last outcomes_eq rfl (.inl rfl)
    refine loops.accounts.polled at_head rfl rfl rfl rfl ?_
    simp [fail, finish, say, flush]
  | panicked polls =>
    rw [polls] at outcomes_eq ⊢
    refine Accounts.ends ?_ none_last outcomes_eq rfl (.inr rfl)
    refine loops.accounts.polled at_head rfl rfl rfl rfl ?_
    simp [panic, flush, beginPoll, not_failed]

theorem Loops.frame (loops : w.Loops outcomes told p h)
    (same : w'.stage = w.stage ∧ w'.script = w.script ∧ w'.processor = w.processor ∧
      w'.polls = w.polls ∧ w'.interrupted = w.interrupted ∧ w'.failed = w.failed) :
    w'.Loops outcomes told p h := by
  obtain ⟨stage, script, processor, polls, interrupted, failed⟩ := same
  obtain ⟨accounts, opens, going, halted⟩ := loops
  have under_way : w'.underWay = w.underWay := by simp only [underWay, stage]
  have ahead : w'.ahead = w.ahead := by simp only [Worker.ahead, stage, script]
  refine ⟨⟨?_, ?_, ?_, ?_, ?_⟩, ?_, ?_, ?_⟩
  · rw [under_way]
    exact accounts.incidents
  · rw [processor]
    exact accounts.processor
  · rw [polls]
    exact accounts.polls
  · rw [interrupted]
    exact accounts.interrupted
  · rw [failed]
    exact accounts.failed
  · rw [stage, script]
    exact opens
  · rw [isOver, stage, ahead]
    exact going
  · rw [isOver, stage]
    exact halted

theorem Loops.later {told' : Prop} (loops : w.Loops outcomes told p h) (later : told → told') :
    w.Loops outcomes told' p h where
  accounts := loops.accounts
  opens := loops.opens
  going := loops.going
  halted halted := by
    obtain ⟨begins, told | all⟩ := loops.halted halted
    · exact ⟨begins, .inl (later told)⟩
    · exact ⟨begins, .inr all⟩

theorem Loops.head (loops : w.Loops outcomes told p h) (at_rest : w.underWay = [])
    (stage : w.stage = .opening ∨ w.stage = .delivering []) :
    ({ w with stage := .polling } : Worker).Loops outcomes told p h := by
  have going : ¬ w.isOver := by rcases stage with stage | stage <;> simp [isOver, stage]
  have ahead : w.ahead = w.script.polls ++ [.idle] := by
    rcases stage with stage | stage <;> simp [Worker.ahead, stage]
  obtain ⟨none_last, outcomes_eq⟩ := loops.going going
  obtain ⟨incidents, processor, polls, interrupted, failed⟩ := loops.accounts
  rw [at_rest] at incidents
  rw [ahead] at outcomes_eq
  exact ⟨⟨incidents, processor, polls, interrupted, failed⟩, by simp,
    fun _ => ⟨none_last, outcomes_eq⟩, by simp [isOver]⟩

theorem Loops.pass (loops : w.Loops outcomes told p h) {raw : List UInt8} {rest : List (List UInt8)}
    (stage : w.stage = .delivering (raw :: rest)) :
    ({ w.consume raw with stage := .delivering rest } : Worker).Loops outcomes told p
      (h ++ [.passed raw]) := by
  have going : ¬ w.isOver := by simp [isOver, stage]
  have ahead : w.ahead = w.script.polls ++ [.idle] := by simp [Worker.ahead, stage]
  obtain ⟨none_last, outcomes_eq⟩ := loops.going going
  obtain ⟨incidents, processor, polls, interrupted, failed⟩ := loops.accounts
  rw [ahead] at outcomes_eq
  have same : pollsMade (h ++ [.passed raw]) = pollsMade h := by simp
  refine ⟨⟨?_, ?_, ?_, ?_, ?_⟩, by simp, fun _ => ?_, by simp [isOver]⟩
  · simpa [underWay, stage] using incidents
  · have consumed : (w.consume raw).processor = (w.processor.consume raw).1 := rfl
    simp [consumed, processor, Processor.after, Processor.serve]
  · rw [same]
    exact polls
  · rw [same]
    exact interrupted
  · rw [same]
    exact failed
  · rw [same]
    exact ⟨none_last, outcomes_eq⟩

theorem Loops.finish (loops : w.Loops outcomes told p h) (at_rest : w.underWay = [])
    (going : ¬ w.isOver) {told' : Prop} (now : told') : w.finish.Loops outcomes told' p h := by
  obtain ⟨none_last, outcomes_eq⟩ := loops.going going
  obtain ⟨incidents, processor, polls, interrupted, failed⟩ := loops.accounts
  rw [at_rest] at incidents
  refine ⟨⟨incidents, processor, polls, interrupted, failed⟩, nofun, fun going => ?_, fun _ => ?_⟩
  · exact absurd (.inl rfl) going
  · rw [← outcomes_eq, taken_append none_last]
    exact ⟨List.prefix_append _ _, .inl now⟩

theorem Loops.silent (loops : w'.Loops outcomes told p h) {raised : Bool}
    (nothing : w.incidents raised = []) :
    w'.Loops outcomes (told ∨ raised = true) p (h ++ w.incidents raised) := by
  rw [nothing, List.append_nil]
  exact loops.later Or.inl

theorem Loops.advance (loops : w.Loops outcomes told p h) {raised : Bool} (outbox : w.outbox = [])
    (advanced : w.advance? raised = some w') :
    w'.Loops outcomes (told ∨ raised = true) p (h ++ w.incidents raised) := by
  cases advances_of_advance? advanced with
  | unopened stage failure =>
    rw [loops.opens stage] at failure
    cases failure
  | opened stage =>
    refine (loops.head (by simp [underWay, stage]) (.inl stage)).silent ?_
    simp [Worker.incidents, outbox, stage]
  | told stage flag =>
    have nothing : w.incidents raised = [] := by simp [Worker.incidents, outbox, stage, flag]
    rw [nothing, List.append_nil]
    exact loops.finish (by simp [underWay, stage]) (by simp [isOver, stage]) (.inr flag)
  | polled stage flag =>
    have polled : w.incidents raised = [.polled (w.script.polls.headD .idle)] := by
      simp [Worker.incidents, outbox, stage, flag]
    rw [polled]
    exact (loops.poll stage).later Or.inl
  | emptied stage =>
    refine (loops.head (by simp [underWay, stage]) (.inr stage)).silent ?_
    simp [Worker.incidents, outbox, stage]
  | @consumed raw rest stage =>
    have passed : w.incidents raised = [.passed raw] := by simp [Worker.incidents, outbox, stage]
    rw [passed]
    exact (loops.pass stage).later Or.inl
  | woken stage flag =>
    have nothing : w.incidents raised = [] := by simp [Worker.incidents, outbox, stage]
    rw [nothing, List.append_nil]
    exact loops.finish (by simp [underWay, stage]) (by simp [isOver, stage]) (.inr flag)

theorem incidents_of_stuck {raised : Bool} (stuck : w.step? raised = none) :
    w.incidents raised = [] := by
  rcases step?_eq_none stuck with gone | ⟨waiting, -⟩
  · obtain ⟨outbox, ended | panicked⟩ := isGone_iff.mp gone
    · simp [incidents, outbox, ended]
    · simp [incidents, outbox, panicked]
  · have here : w.outbox = [] ∧ w.stage = .waiting := by simpa [isWaiting] using waiting
    simp [incidents, here.1, here.2]

theorem Loops.stepped (loops : w.Loops outcomes told p h) (raised : Bool) :
    (w.stepped raised).Loops outcomes (told ∨ raised = true) p (h ++ w.incidents raised) := by
  cases step : w.step? raised with
  | none =>
    rw [stepped_of_stuck step]
    exact loops.silent (incidents_of_stuck step)
  | some next =>
    obtain ⟨v, batch?⟩ := next
    rw [stepped_of_step step]
    simp only [step?] at step
    split at step
    next batch rest outbox =>
      cases step
      have framed : ({ w with outbox := rest } : Worker).Loops outcomes told p h :=
        loops.frame ⟨rfl, rfl, rfl, rfl, rfl, rfl⟩
      exact framed.silent (by simp [Worker.incidents, outbox])
    next outbox =>
      obtain ⟨_, advanced, same⟩ := Option.map_eq_some_iff.mp step
      cases same
      exact loops.advance outbox advanced

theorem Loops.after (loops : w.Loops outcomes told p h) (flags : List Bool) :
    (w.after flags).Loops outcomes (told ∨ true ∈ flags) p (h ++ w.history flags) := by
  induction flags generalizing w told h with
  | nil =>
    rw [history, List.append_nil]
    exact loops.later Or.inl
  | cons raised rest ih =>
    have later := ih (loops.stepped raised)
    rw [List.append_assoc] at later
    refine later.later ?_
    simp only [List.mem_cons, or_assoc, @eq_comm _ true]
    exact id

theorem fresh_loops (c : Channel) (setup : Setup) (batchSize : Nat) (polls : List Poll) :
    (fresh c ⟨none, none, none, polls⟩ setup batchSize).Loops (polls ++ [.idle]) False
      (.fresh c setup) [] where
  accounts := ⟨rfl, rfl, rfl, rfl, by simp [fresh]⟩
  opens _ := rfl
  going _ := ⟨nofun, rfl⟩
  halted := nofun

theorem Loops.incidents_eq (loops : w.Loops outcomes told p h) (at_rest : w.underWay = []) :
    h = (pollsMade h).flatMap Poll.incidents := by
  simpa [at_rest] using loops.accounts.incidents

end loops

section runs

variable (w : Worker) (raised : Bool)

theorem after_append (xs ys : List Bool) : w.after (xs ++ ys) = (w.after xs).after ys := by
  induction xs generalizing w with
  | nil => rfl
  | cons raised rest ih => exact ih (w.stepped raised)

theorem history_append (xs ys : List Bool) :
    w.history (xs ++ ys) = w.history xs ++ (w.after xs).history ys := by
  induction xs generalizing w with
  | nil => rfl
  | cons raised rest ih =>
    rw [List.cons_append, history, ih (w.stepped raised), ← List.append_assoc]
    rfl

theorem pollsMade_raised (up : Nat) : pollsMade (w.history (List.replicate up true)) = [] := by
  induction up generalizing w with
  | zero => rfl
  | succ up ih =>
    rw [List.replicate_succ, history, pollsMade_append, ih]
    unfold incidents
    split <;> rfl

theorem pollsMade_incidents_le : (pollsMade (w.incidents raised)).length ≤ 1 := by
  unfold incidents
  split
  · split <;> simp
  · simp
  · simp

theorem exists_pollsMade {n k : Nat}
    (enough : k ≤ (pollsMade (w.history (List.replicate n raised))).length) :
    ∃ m, (pollsMade (w.history (List.replicate m raised))).length = k := by
  induction n with
  | zero => exact ⟨0, (Nat.le_zero.mp enough).symm⟩
  | succ n ih =>
    by_cases before : k ≤ (pollsMade (w.history (List.replicate n raised))).length
    · exact ih before
    · refine ⟨n + 1, ?_⟩
      have one := pollsMade_incidents_le (w.after (List.replicate n raised)) raised
      rw [List.replicate_succ', history_append, pollsMade_append, List.length_append, history, history,
        List.append_nil] at enough ⊢
      omega

theorem after_of_stuck {w : Worker} {raised : Bool} (stuck : w.step? raised = none) (n : Nat) :
    w.after (List.replicate n raised) = w := by
  induction n with
  | zero => rfl
  | succ n ih => rw [List.replicate_succ, Worker.after, stepped_of_stuck stuck, ih]

end runs

theorem settles (raised : Bool) (w : Worker) :
    ∃ enough, ∀ n, enough ≤ n → (w.after (List.replicate n raised)).step? raised = none :=
  match step : w.step? raised with
  | none => ⟨0, fun n _ => by rw [after_of_stuck step, step]⟩
  | some (w', batch?) => by
    obtain ⟨enough, settled⟩ := settles raised w'
    refine ⟨enough + 1, ?_⟩
    intro n more
    obtain ⟨m, rfl⟩ : ∃ m, n = m + 1 := ⟨n - 1, by omega⟩
    rw [List.replicate_succ, Worker.after, stepped_of_step step]
    exact settled m (by omega)
termination_by (w.stagesLeft, w.deliveriesLeft, w.outbox.length)
decreasing_by exact step?_decreases step

theorem pollsMade_told (w : Worker) (down up : Nat) :
    pollsMade (w.history (List.replicate down false ++ List.replicate up true)) =
      pollsMade (w.history (List.replicate down false)) := by
  rw [history_append, pollsMade_append, pollsMade_raised, List.append_nil]

section ends

variable {outcomes : List Poll} {told : Prop} {p : Processor} {h : List PollIncident} {w : Worker}

theorem Loops.begins (loops : w.Loops outcomes told p h) : pollsMade h <+: taken outcomes := by
  by_cases halted : w.isOver
  · exact (loops.halted halted).1
  · obtain ⟨none_last, outcomes_eq⟩ := loops.going halted
    rw [← outcomes_eq, taken_append none_last]
    exact List.prefix_append _ _

theorem Loops.over_iff (loops : w.Loops outcomes told p h) (untold : ¬ told) :
    w.isOver ↔ (pollsMade h).getLast?.any Poll.isLast = true := by
  constructor
  · intro halted
    rcases (loops.halted halted).2 with now | ⟨-, last⟩
    · exact absurd now untold
    · exact last
  · intro last
    by_contra going
    obtain ⟨none_last, -⟩ := loops.going going
    cases here : (pollsMade h).getLast? with
    | none => simp [here] at last
    | some q =>
      have goes_on := none_last q (List.mem_of_getLast? here)
      simp [here, goes_on] at last

theorem underWay_of_stuck {raised : Bool} (stuck : w.step? raised = none) : w.underWay = [] := by
  rcases step?_eq_none stuck with gone | ⟨waiting, -⟩
  · exact (List.append_eq_nil_iff.mp (isGone_iff.mp gone).2.nothing_left).1
  · have stage : w.stage = .waiting := by simp_all [isWaiting]
    simp [underWay, stage]

theorem Loops.all_made (loops : w.Loops outcomes told p h) (untold : ¬ told)
    (stuck : w.step? false = none) : pollsMade h = taken outcomes := by
  rcases step?_eq_none stuck with gone | ⟨waiting, -⟩
  · rcases (loops.halted (isGone_iff.mp gone).2).2 with now | ⟨all, -⟩
    · exact absurd now untold
    · exact all
  · have stage : w.stage = .waiting := by simp_all [isWaiting]
    obtain ⟨none_last, outcomes_eq⟩ := loops.going (by simp [isOver, stage])
    have ahead : w.ahead = [] := by simp [Worker.ahead, stage]
    rw [← outcomes_eq, taken_append none_last, ahead]
    exact (List.append_nil _).symm

end ends

/-- A worker polls until its channel fails or the flag is up at the head of its loop, whichever comes
first and whenever that is, and it gives account of every poll it has made. -/
theorem poll_loop_accounted (c : Channel) (setup : Setup) (batchSize : Nat) (polls : List Poll) :
    let start := fresh c ⟨none, none, none, polls⟩ setup batchSize
    let outcomes := polls ++ [.idle]
    (∀ down : Nat,
      let before := List.replicate down false
      let made := pollsMade (start.history before)
      made <+: taken outcomes ∧
        ((start.after before).isOver ↔ made.getLast?.any Poll.isLast = true) ∧
        (∀ up : Nat,
          let flags := before ++ List.replicate up true
          pollsMade (start.history flags) = made ∧
            (start.after flags).Accounts (.fresh c setup) (start.history flags)) ∧
        ∃ enough, ∀ up, enough ≤ up →
          let flags := before ++ List.replicate up true
          (start.after flags).isGone = true ∧
            start.history flags = made.flatMap Poll.incidents ∧
            rawsPassed (start.history flags) = made.flatMap Poll.raws) ∧
    (∀ made, made <+: taken outcomes →
      ∃ down, pollsMade (start.history (List.replicate down false)) = made) ∧
    ∃ enough, ∀ down, enough ≤ down →
      start.history (List.replicate down false) = (taken outcomes).flatMap Poll.incidents := by
  intro start outcomes
  have loops (flags : List Bool) :
      (start.after flags).Loops outcomes (False ∨ true ∈ flags) (.fresh c setup) (start.history flags) :=
    (fresh_loops c setup batchSize polls).after flags
  have untold (down : Nat) : ¬ (False ∨ true ∈ List.replicate down false) := by simp
  obtain ⟨last, settled⟩ := settles false start
  have all_made (down : Nat) (more : last ≤ down) :
      pollsMade (start.history (List.replicate down false)) = taken outcomes :=
    (loops _).all_made (untold down) (settled down more)
  refine ⟨fun down => ⟨?_, ?_, fun up => ⟨?_, ?_⟩, ?_⟩, ?_, last, ?_⟩
  · exact (loops _).begins
  · exact (loops _).over_iff (untold down)
  · exact pollsMade_told start down up
  · exact (loops _).accounts
  · obtain ⟨enough, settled⟩ := settles true (start.after (List.replicate down false))
    refine ⟨enough, ?_⟩
    intro up more flags
    have stuck := settled up more
    rw [← after_append] at stuck
    have gone : (start.after flags).isGone = true := by
      rcases step?_eq_none stuck with gone | ⟨-, down⟩
      · exact gone
      · cases down
    have shown := (loops flags).incidents_eq (underWay_of_stuck stuck)
    rw [pollsMade_told] at shown
    refine ⟨gone, shown, ?_⟩
    rw [shown, rawsPassed_incidents]
  · intro made begins
    have enough : made.length ≤ (pollsMade (start.history (List.replicate last false))).length := by
      rw [all_made last (Nat.le_refl last)]
      exact begins.length_le
    obtain ⟨down, length_eq⟩ := exists_pollsMade start false enough
    have so_far := (loops (List.replicate down false)).begins
    refine ⟨down, ?_⟩
    exact (List.prefix_of_prefix_length_le so_far begins (Nat.le_of_eq length_eq)).eq_of_length length_eq
  · intro down more
    rw [← all_made down more]
    exact (loops _).incidents_eq (underWay_of_stuck (settled down more))

theorem cut_short_loop_accounted :
    let script : List Poll := [.interrupted, .delivered [[1], [2]], .failed "gone"]
    let start := fresh .ipi ⟨none, none, none, script⟩ ⟨.none, .empty, .empty⟩ 0
    let cut (up : Nat) := List.replicate 4 false ++ List.replicate up true
    (∃ enough, ∀ up, enough ≤ up →
      (start.after (cut up)).isGone = true ∧
        start.history (cut up) =
          [.polled .interrupted, .polled (.delivered [[1], [2]]), .passed [1], .passed [2]]) ∧
      (start.after (cut 9)).polls = 2 ∧ (start.after (cut 9)).interrupted = 1 ∧
      (start.after (cut 9)).failed = false ∧
      (∃ down, pollsMade (start.history (List.replicate down false)) = [.interrupted]) ∧
      ∃ enough, ∀ down, enough ≤ down →
        pollsMade (start.history (List.replicate down false)) = script := by
  intro script start cut
  obtain ⟨told, reached, untold⟩ := poll_loop_accounted .ipi ⟨.none, .empty, .empty⟩ 0 script
  obtain ⟨-, -, counted, enough, ended⟩ := told 4
  have made : pollsMade (start.history (List.replicate 4 false)) =
      [.interrupted, .delivered [[1], [2]]] := by decide
  have same : pollsMade (start.history (cut 9)) = [.interrupted, .delivered [[1], [2]]] :=
    (counted 9).1.trans made
  have accounts : (start.after (cut 9)).Accounts _ (start.history (cut 9)) := (counted 9).2
  refine ⟨⟨enough, fun up more => ?_⟩, ?_, ?_, ?_, reached _ (by decide), ?_⟩
  · obtain ⟨gone, shown, -⟩ := ended up more
    rw [made] at shown
    exact ⟨gone, shown⟩
  · rw [accounts.polls, same]
    rfl
  · rw [accounts.interrupted, same]
    decide
  · apply Bool.eq_false_iff.mpr
    intro failed
    obtain ⟨cause, last⟩ := accounts.failed.mp failed
    rw [same] at last
    simp at last
  · obtain ⟨enough, all⟩ := untold
    refine ⟨enough, ?_⟩
    intro down more
    rw [all down more]
    decide

end Worker

end SchedTelemetry
