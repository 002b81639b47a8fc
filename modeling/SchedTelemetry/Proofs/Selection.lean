import SchedTelemetry.Attribution
import SchedTelemetry.Proofs.Processing

set_option autoImplicit false

namespace SchedTelemetry

def Observation.belongs (s : Switches) (f : TaskFilter) (o : Observation) : Bool :=
  s.isOn o.switch && o.passes f

def Attributed {σ : Type} (track : σ → Track) (readings : List (Reading σ)) : Prop :=
  ∀ r ∈ readings, (track r.2.1).switch = r.1

theorem counters_eq_filter {σ : Type} (s : Switches) (f : TaskFilter) (track : σ → Track)
    (readings : List (Reading σ)) (attributed : Attributed track readings)
    (passes : ∀ signal value, (Observation.counter (track signal) value).passes f = true) :
    counters s track readings =
      (counters .every track readings).filter (Observation.belongs s f) := by
  induction readings with
  | nil => rfl
  | cons r rest ih =>
    have here : (track r.2.1).switch = r.1 := attributed r List.mem_cons_self
    have there := ih (fun r' member => attributed r' (List.mem_cons_of_mem r member))
    obtain ⟨x, signal, value?⟩ := r
    simp only [counters, Switches.every] at there here ⊢
    cases value? with
    | none => simpa using there
    | some value =>
      have belongs : (Observation.counter (track signal) value.toInt64).belongs s f = s.isOn x := by
        simp [Observation.belongs, Observation.switch, here, passes]
      by_cases on : s.isOn x = true
      · simp [on, belongs, there]
      · simp [on, belongs, there]

theorem task_passes (f : TaskFilter) (name : String) (pid : Int32) (signal : TaskSignal)
    (value : Int64) :
    (Observation.counter (.task name pid signal) value).passes f = f.accepts pid name := rfl

theorem task_counters_eq_filter (s : Switches) (f : TaskFilter) (name : String) (pid : Int32)
    (readings : List (Reading TaskSignal)) (attributed : Attributed (.task name pid) readings) :
    (if f.accepts pid name then counters s (.task name pid) readings else []) =
      (counters .every (.task name pid) readings).filter (Observation.belongs s f) := by
  by_cases accepted : f.accepts pid name = true
  · rw [if_pos accepted]
    apply counters_eq_filter s f _ _ attributed
    intro signal value
    rw [task_passes, accepted]
  · rw [if_neg accepted, eq_comm, List.filter_eq_nil_iff]
    intro o member
    obtain ⟨⟨x, signal, value?⟩, -, given⟩ := List.mem_filterMap.mp member
    cases value? with
    | none => simp at given
    | some value =>
      obtain rfl : Observation.counter (.task name pid signal) value.toInt64 = o := by
        simpa [Switches.every] using given
      simp [Observation.belongs, task_passes, accepted]

theorem RqPelt.attributed (e : RqPelt) : Attributed (.cpu e.cpu) e.readings := by
  intro r member
  simp only [RqPelt.readings] at member
  cases h : e.peltClass <;> simp only [h, List.mem_cons, List.not_mem_nil, or_false] at member
  case fair => rcases member with rfl | rfl | rfl | rfl | rfl <;> rfl
  all_goals subst member; rfl

theorem TaskPelt.attributed (e : TaskPelt) :
    Attributed (.task e.name.text e.pid) e.readings := by
  intro r member
  simp only [TaskPelt.readings, List.mem_cons, List.not_mem_nil, or_false] at member
  rcases member with rfl | rfl | rfl | rfl | rfl | rfl <;> rfl

theorem SchedSwitch.attributed (e : SchedSwitch) :
    Attributed (.task e.name.text e.pid) e.readings := by
  intro r member
  simp only [SchedSwitch.readings] at member
  split at member
  · exact absurd member List.not_mem_nil
  · simp only [List.mem_cons, List.not_mem_nil, or_false] at member
    rcases member with rfl | rfl | rfl | rfl | rfl <;> rfl

theorem switched_eq_filter (s : Switches) (f : TaskFilter) (x : Switch) (os : List Observation)
    (belongs : ∀ o ∈ os, o.switch = x ∧ o.passes f = true) :
    (if s.isOn x then os else []) = os.filter (Observation.belongs s f) := by
  have same : ∀ o ∈ os, Observation.belongs s f o = s.isOn x := by
    intro o member
    simp [Observation.belongs, belongs o member]
  rw [List.filter_congr same]
  by_cases on : s.isOn x = true
  · rw [if_pos on, on, List.filter_eq_self.mpr (fun _ _ => rfl)]
  · rw [if_neg on, eq_comm, List.filter_eq_nil_iff]
    exact fun _ _ => on

theorem LoadBalance.parts_belong (f : TaskFilter) (e : LoadBalance) :
    ∀ o ∈ e.statsPart ++ e.overloadedPart ++ e.overutilizedPart ++ e.misfitPart ++ [e.marker],
      o.switch = .loadBalance ∧ o.passes f = true := by
  intro o member
  simp only [List.mem_append, List.mem_singleton] at member
  rcases member with (((stats | overloaded) | overutilized) | misfit) | rfl
  · simp only [LoadBalance.statsPart] at stats
    split at stats
    · obtain rfl := List.mem_singleton.mp stats
      exact ⟨rfl, rfl⟩
    · exact absurd stats List.not_mem_nil
  · obtain ⟨v, -, rfl⟩ := by simpa [LoadBalance.overloadedPart] using overloaded
    exact ⟨rfl, rfl⟩
  · obtain ⟨v, -, rfl⟩ := by simpa [LoadBalance.overutilizedPart] using overutilized
    exact ⟨rfl, rfl⟩
  · simp only [LoadBalance.misfitPart] at misfit
    split at misfit
    · obtain rfl := List.mem_singleton.mp misfit
      exact ⟨rfl, rfl⟩
    · exact absurd misfit List.not_mem_nil
  · simp only [LoadBalance.marker]
    split <;> exact ⟨rfl, rfl⟩

theorem FreqIdle.counters_belong (f : TaskFilter) (e : FreqIdle) :
    ∀ o ∈ e.observations ⟨.every, .empty, .empty⟩, o.switch = .idle ∧ o.passes f = true := by
  intro o member
  simp only [FreqIdle.observations, Switches.every, if_true, List.mem_cons] at member
  rcases member with rfl | miss
  · exact ⟨rfl, rfl⟩
  · split at miss
    · exact absurd miss List.not_mem_nil
    · obtain rfl := List.mem_singleton.mp miss
      exact ⟨rfl, rfl⟩

theorem Event.observations_eq_filter (s : Switches) (f : TaskFilter) (t : SymbolTable)
    (e : Event) :
    e.observations ⟨s, f, t⟩ =
      (e.observations ⟨.every, .empty, t⟩).filter (Observation.belongs s f) := by
  cases e with
  | rqPelt e => exact counters_eq_filter s f _ _ e.attributed (fun _ _ => rfl)
  | taskPelt e => exact task_counters_eq_filter s f _ _ _ e.attributed
  | schedSwitch e => exact task_counters_eq_filter s f _ _ _ e.attributed
  | nrRunning e =>
    apply switched_eq_filter s f .nrRunning [.counter (.cpu e.cpu .nrRunning) e.nrRunning.toInt64]
    intro o member
    obtain rfl := List.mem_singleton.mp member
    exact ⟨rfl, rfl⟩
  | freqIdle e => exact switched_eq_filter s f .idle _ (e.counters_belong f)
  | loadBalance e => exact switched_eq_filter s f .loadBalance _ (e.parts_belong f)
  | ipi e =>
    apply switched_eq_filter s f .ipi
      [.ipi e.fromCpu e.targetCpu (t.locate e.callsite) (t.locate e.callback)]
    intro o member
    obtain rfl := List.mem_singleton.mp member
    exact ⟨rfl, rfl⟩

theorem Event.records_eq_filter (s : Switches) (f : TaskFilter) (t : SymbolTable) (e : Event) :
    e.records ⟨s, f, t⟩ = (e.records ⟨.every, .empty, t⟩).filter (Record.belongs s f) := by
  rw [Event.records, e.observations_eq_filter, Event.records, List.filter_map]
  rfl

theorem Processor.recordsOf_eq_filter (c : Channel) (s : Switches) (f : TaskFilter)
    (t : SymbolTable) (raw : List UInt8) :
    recordsOf c ⟨s, f, t⟩ raw = (recordsOf c ⟨.every, .empty, t⟩ raw).filter (Record.belongs s f) := by
  simp only [recordsOf]
  cases Event.decode c raw with
  | ok e => exact e.records_eq_filter s f t
  | error cause => rfl

/-- Switches and filter are a pure filter on the records of every channel. -/
theorem Processor.emitted_eq_filter_unrestricted (c : Channel) (s : Switches) (f : TaskFilter)
    (t : SymbolTable) (raws : List (List UInt8)) :
    (fresh c ⟨s, f, t⟩).emitted raws =
      ((fresh c ⟨.every, .empty, t⟩).emitted raws).filter (Record.belongs s f) := by
  rw [emitted_eq_flatMap, emitted_eq_flatMap, List.filter_flatMap]
  have each : recordsOf c ⟨s, f, t⟩ =
      fun raw => (recordsOf c ⟨.every, .empty, t⟩ raw).filter (Record.belongs s f) :=
    funext (fun raw => recordsOf_eq_filter c s f t raw)
  exact congrArg raws.flatMap each

end SchedTelemetry
