import Mathlib.Data.List.DropRight
import Mathlib.Data.Set.Card
import SchedTelemetry.Processor

set_option autoImplicit false

namespace SchedTelemetry

def PhaseState.sinceFirst : List LoadBalance → PhaseState
  | [] => .closed
  | first :: _ => .opened first.ts

@[simp] theorem PhaseState.isOpen_closed : isOpen .closed = false := rfl

@[simp] theorem PhaseState.isOpen_opened (since : UInt64) : isOpen (.opened since) = true := rfl

theorem PhaseState.foldl_next (events : List LoadBalance) :
    events.foldl next .closed = .sinceFirst (events.rtakeWhile (·.entry)) := by
  induction events using List.reverseRecOn with
  | nil => rfl
  | append_singleton events e ih =>
    rw [List.foldl_append, ih, List.rtakeWhile_concat]
    -- An exit ends whatever was open, and an entry behind another leaves the first one's time.
    cases entry : e.entry with
    | false => cases sinceFirst (events.rtakeWhile (·.entry)) <;> simp [next, entry, sinceFirst]
    | true => cases events.rtakeWhile (·.entry) <;> simp [next, entry, sinceFirst]

namespace Phases

section entries

variable {entries : List (PhaseKey × PhaseState)}

theorem lookup_first (entry : PhaseKey × PhaseState) (k : PhaseKey) :
    (entry :: entries).lookup k = if entry.1 = k then some entry.2 else entries.lookup k := by
  rw [List.lookup_cons]
  by_cases here : entry.1 = k
  · simp [here]
  · rw [if_neg here, beq_false_of_ne (Ne.symm here)]

theorem lookup_put (k k' : PhaseKey) (s : PhaseState) :
    (put k s entries).lookup k' = if k = k' then some s else entries.lookup k' := by
  induction entries with
  | nil => simp [put, lookup_first]
  | cons entry rest ih =>
    by_cases here : entry.1 = k <;> by_cases same : k = k' <;>
      simp_all [put, lookup_first]

theorem mem_iff_lookup (distinct : (entries.map Prod.fst).Nodup) (k : PhaseKey) (s : PhaseState) :
    (k, s) ∈ entries ↔ entries.lookup k = some s := by
  induction entries with
  | nil => simp
  | cons entry rest ih =>
    obtain ⟨new, distinct⟩ := List.nodup_cons.mp distinct
    rw [lookup_first, List.mem_cons, ih distinct]
    by_cases here : entry.1 = k
    -- The first entry of a key is the one that is looked up, and the others have other keys.
    · have behind : rest.lookup k ≠ some s := by
        intro found
        exact new (List.mem_map.mpr ⟨_, (ih distinct).mpr found, here.symm⟩)
      simp [here, behind, Prod.ext_iff, eq_comm]
    · have other : (k, s) ≠ entry := fun same => here (congrArg Prod.fst same).symm
      simp [here, other]

-- The state that is replaced is the only one that leaves the count.
theorem countP_put (k : PhaseKey) (s : PhaseState) :
    (put k s entries).countP (·.2.isOpen) +
        (if ((entries.lookup k).getD .closed).isOpen then 1 else 0) =
      entries.countP (·.2.isOpen) + if s.isOpen then 1 else 0 := by
  induction entries with
  | nil => simp [put, List.countP_cons]
  | cons entry rest ih =>
    rw [lookup_first]
    by_cases here : entry.1 = k
    · simp only [put, here, if_true, List.countP_cons, Option.getD_some]
      omega
    · simp only [put, here, if_false, List.countP_cons]
      omega

end entries

theorem state_update (p : Phases) (e : LoadBalance) (k : PhaseKey) :
    (p.update e).state k = if e.key = k then (p.state k).next e else p.state k := by
  rw [state, update, lookup_put]
  by_cases same : e.key = k
  · simp [same]
  · simp [same, state]

theorem openCount_update (p : Phases) (e : LoadBalance) :
    (p.update e).openCount + (if (p.state e.key).isOpen then 1 else 0) =
      p.openCount + if ((p.state e.key).next e).isOpen then 1 else 0 :=
  countP_put e.key _

abbrev Answer := LoadBalance × PhaseState

namespace Answer

def opens (a : Answer) : Bool := a.1.entry && !a.2.isOpen

def closes (a : Answer) : Bool := !a.1.entry && a.2.isOpen

def stray (a : Answer) : Bool := !a.1.entry && !a.2.isOpen

end Answer

def after (p : Phases) (events : List LoadBalance) : Phases :=
  events.foldl (fun p e => (p.step e).2) p

def answers (p : Phases) : List LoadBalance → List Answer
  | [] => []
  | e :: rest => (e, (p.step e).1) :: (p.step e).2.answers rest

def entriesSinceExit (k : PhaseKey) (events : List LoadBalance) : List LoadBalance :=
  (events.filter (·.key = k)).rtakeWhile (·.entry)

theorem state_after (p : Phases) (events : List LoadBalance) (k : PhaseKey) :
    (p.after events).state k =
      (events.filter (·.key = k)).foldl PhaseState.next (p.state k) := by
  induction events generalizing p with
  | nil => rfl
  | cons e rest ih =>
    have later := ih (p.update e)
    rw [state_update] at later
    by_cases here : e.key = k
    · simpa [after, step, here] using later
    · simpa [after, step, here] using later

theorem openCount_after (p : Phases) (events : List LoadBalance) :
    (p.after events).openCount + (p.answers events).countP Answer.closes =
      p.openCount + (p.answers events).countP Answer.opens := by
  induction events generalizing p with
  | nil => rfl
  | cons e rest ih =>
    have later := ih (p.update e)
    have now := openCount_update p e
    -- One more is open for an entry into a closed phase only, one less for an exit from an open one only.
    have change : (if (p.state e.key).isOpen then 1 else 0) +
          (if Answer.opens (e, p.state e.key) then 1 else 0) =
        (if ((p.state e.key).next e).isOpen then 1 else 0) +
          if Answer.closes (e, p.state e.key) then 1 else 0 := by
      cases entry : e.entry <;> cases p.state e.key <;>
        simp [Answer.opens, Answer.closes, PhaseState.next, entry]
    simp only [after, answers, step, List.foldl_cons, List.countP_cons] at later ⊢
    omega

theorem mem_opened_iff (p : Phases) (k : PhaseKey) (since : UInt64) :
    (k, since) ∈ p.opened ↔ p.state k = .opened since := by
  have known : (k, PhaseState.opened since) ∈ p.known ↔ p.state k = .opened since := by
    rw [mem_iff_lookup p.distinct, state]
    cases p.known.lookup k <;> simp
  rw [← known]
  constructor
  · intro member
    obtain ⟨⟨key, s⟩, here, given⟩ := List.mem_filterMap.mp member
    cases s with
    | closed => simp [PhaseState.since?] at given
    | opened time =>
      obtain ⟨rfl, rfl⟩ := by simpa [PhaseState.since?] using given
      exact here
  · intro member
    exact List.mem_filterMap.mpr ⟨_, member, rfl⟩

theorem nodup_opened (p : Phases) : (p.opened.map Prod.fst).Nodup := by
  have within : (p.opened.map Prod.fst).Sublist (p.known.map Prod.fst) := by
    unfold opened
    induction p.known with
    | nil => exact .slnil
    | cons entry rest ih =>
      obtain ⟨key, s⟩ := entry
      cases s with
      | closed => exact ih.cons key
      | opened since => exact ih.cons_cons key
  exact within.nodup p.distinct

theorem length_opened (p : Phases) : p.opened.length = p.openCount := by
  simp [opened, openCount, PhaseState.isOpen, List.length_filterMap_eq_countP]

theorem encard_open (p : Phases) :
    {k | ∃ since, p.state k = .opened since}.encard = p.openCount := by
  have same : {k | ∃ since, p.state k = .opened since} =
      ((p.opened.map Prod.fst).toFinset : Set PhaseKey) := by
    ext k
    simp [← mem_opened_iff]
  rw [same, Set.encard_coe_eq_coe_finsetCard, List.toFinset_card_of_nodup p.nodup_opened,
    List.length_map, length_opened]

end Phases

namespace Processor

open Phases

def isStrayExit : Notice → Bool
  | .exitWithoutEntry _ => true
  | _ => false

def handleAll (p : Processor) : List LoadBalance → Processor × List Notice
  | [] => (p, [])
  | e :: rest =>
    let (after, output) := p.handle (.loadBalance e)
    let (last, notices) := after.handleAll rest
    (last, output.notices ++ notices)

theorem filter_strayExit (e : LoadBalance) (found : PhaseState) :
    (misfitNotices e ++ exitNotices found e).filter isStrayExit =
      if Answer.stray (e, found) then [.exitWithoutEntry e.key] else [] := by
  have misfit : (misfitNotices e).filter isStrayExit = [] := by
    unfold misfitNotices
    split <;> rfl
  rw [List.filter_append, misfit, List.nil_append]
  cases entry : e.entry <;> cases found <;> simp [exitNotices, Answer.stray, entry, isStrayExit]

theorem balance_notices_debug (e : LoadBalance) (found : PhaseState) :
    ∀ n ∈ misfitNotices e ++ exitNotices found e, n.severity = .debug := by
  intro n member
  unfold misfitNotices exitNotices at member
  rcases List.mem_append.mp member with misfit | exit
  · split at misfit <;> simp_all [Notice.severity]
  · split at exit <;> simp_all [Notice.severity]

theorem handleAll_on {p : Processor} (on : p.setup.switches.isOn .loadBalance = true)
    (events : List LoadBalance) :
    (p.handleAll events).1 = { p with phases := p.phases.after events } ∧
      (p.handleAll events).2.filter isStrayExit =
        ((p.phases.answers events).filter Answer.stray).map (fun a => .exitWithoutEntry a.1.key) ∧
      ∀ n ∈ (p.handleAll events).2, n.severity = .debug := by
  induction events generalizing p with
  | nil => simp [handleAll, answers, after]
  | cons e rest ih =>
    let moved : Processor := { p with phases := (p.phases.step e).2 }
    let said := misfitNotices e ++ exitNotices (p.phases.step e).1 e
    have now : p.handle (.loadBalance e) = (moved, ⟨(Event.loadBalance e).records p.setup, said⟩) := by
      simp [handle, note, handleLoadBalance, on, moved, said]
    obtain ⟨last, strays, debug⟩ := @ih moved on
    simp only [handleAll, now]
    refine ⟨last, ?_, ?_⟩
    · rw [List.filter_append, filter_strayExit, strays]
      by_cases stray : Answer.stray (e, (p.phases.step e).1) = true <;>
        simp [answers, stray, moved]
    · intro n member
      rcases List.mem_append.mp member with first | later
      · exact balance_notices_debug _ _ n first
      · exact debug n later

theorem count_stillOpen (p : Processor) (k : PhaseKey) (since : UInt64) :
    p.closingNotices.count (.stillOpen k since) =
      if p.phases.state k = .opened since then 1 else 0 := by
  have injective : Function.Injective
      (fun entry : PhaseKey × UInt64 => Notice.stillOpen entry.1 entry.2) := by
    intro a b same
    exact Prod.ext (Notice.stillOpen.inj same).1 (Notice.stillOpen.inj same).2
  have one : p.phases.opened.count (k, since) =
      if p.phases.state k = .opened since then 1 else 0 := by
    simp only [p.phases.nodup_opened.of_map.count, mem_opened_iff]
  rw [closingNotices, stillOpenNotices, List.count_append, (List.mergeSort_perm _ _).count_eq, ← one,
    ← List.count_map_of_injective _ _ injective]
  rfl

theorem closingNotices_debug (p : Processor) : ∀ n ∈ p.closingNotices, n.severity = .debug := by
  intro n member
  rcases List.mem_append.mp member with opened | done
  · rw [stillOpenNotices, List.mem_mergeSort] at opened
    obtain ⟨entry, -, rfl⟩ := List.mem_map.mp opened
    rfl
  · obtain rfl := List.mem_singleton.mp done
    rfl

end Processor

/-- After any events, each phase is as its own events say, an event finds what they say and touches no
other phase, and the open phases are those that were opened less those that were closed. Stray exits are
said as they come, and the open phases when the channel closes. -/
theorem Phases.follow_history (events : List LoadBalance) :
    let p := empty.after events
    let answers := empty.answers events
    (∀ k, p.state k = .sinceFirst (entriesSinceExit k events)) ∧
    (∀ e, (p.step e).1 = p.state e.key ∧ ∀ k, k ≠ e.key → (p.step e).2.state k = p.state k) ∧
    {k | ∃ since, p.state k = .opened since}.encard = p.openCount ∧
    p.openCount + answers.countP Answer.closes = answers.countP Answer.opens ∧
    ∀ setup : Setup, setup.switches.isOn .loadBalance = true →
      let handled := (Processor.fresh .loadBalance setup).handleAll events
      let said := handled.2
      let closing := (handled.1.serve .finish).2.output.notices
      handled.1.phases = p ∧
        said.filter Processor.isStrayExit =
          (answers.filter Answer.stray).map (fun a => .exitWithoutEntry a.1.key) ∧
        (∀ k since, closing.count (.stillOpen k since) = if p.state k = .opened since then 1 else 0) ∧
        ∀ n ∈ said ++ closing, n.severity = .debug := by
  intro p answers
  refine ⟨?_, ?_, p.encard_open, ?_, ?_⟩
  · intro k
    exact (state_after empty events k).trans (PhaseState.foldl_next _)
  · intro e
    refine ⟨rfl, ?_⟩
    intro k other
    exact (p.state_update e k).trans (if_neg (Ne.symm other))
  · exact (openCount_after empty events).trans (Nat.zero_add _)
  · intro setup on
    obtain ⟨last, strays, debug⟩ :=
      Processor.handleAll_on (p := .fresh .loadBalance setup) on events
    have phases : ((Processor.fresh .loadBalance setup).handleAll events).1.phases = p := by
      rw [last]
      rfl
    refine ⟨phases, strays, ?_, ?_⟩
    · intro k since
      rw [← phases]
      exact Processor.count_stillOpen _ k since
    · intro n member
      rcases List.mem_append.mp member with first | later
      · exact debug n first
      · exact Processor.closingNotices_debug _ n later

theorem Phases.reopened_phase_followed :
    let event (phase : BalancePhase) (entry : Bool) (ts : UInt64) : LoadBalance :=
      ⟨ts, phase, 0, 1, entry, none, none, none, ⟨0, []⟩⟩
    let events := [event .newidleBalance true 10, event .newidleBalance true 20,
      event (.unknown 7) false 30, event (.unknown 8) true 40, event .newidleBalance false 50,
      event .newidleBalance true 60]
    let p := empty.after events
    let handled := (Processor.fresh .loadBalance ⟨.every, .empty, .empty⟩).handleAll events
    p.state ⟨.newidleBalance, 0, 1⟩ = .opened 60 ∧ p.openCount = 2 ∧
      (p.step (event (.unknown 7) true 70)).2.state ⟨.unknown 8, 0, 1⟩ = .opened 40 ∧
      handled.2 = [.exitWithoutEntry ⟨.unknown 7, 0, 1⟩] ∧
      (handled.1.serve .finish).2.output.notices.count (.stillOpen ⟨.unknown 8, 0, 1⟩ 40) = 1 := by
  intro event events p handled
  obtain ⟨state, step, -, -, handler⟩ := follow_history events
  obtain ⟨-, -, still, -⟩ := handler ⟨.every, .empty, .empty⟩ rfl
  refine ⟨(state _).trans (by decide +kernel), by decide +kernel, ?_, by decide +kernel, ?_⟩
  · exact ((step (event (.unknown 7) true 70)).2 _ (by decide)).trans (by decide +kernel)
  · exact (still _ _).trans (by decide +kernel)

end SchedTelemetry
