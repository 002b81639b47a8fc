import Mathlib.Data.List.Perm.Basic
import SchedTelemetry.Proofs.ArgumentReading

set_option autoImplicit false

namespace SchedTelemetry

section projections

variable {α β κ : Type} {key : α → κ} {step : β → α → β}

variable (commute : ∀ s x y, key x ≠ key y → step (step s x) y = step (step s y) x)

include commute

theorem foldl_past {x : α} {front : List α} (others : ∀ y ∈ front, key y ≠ key x) (back : List α)
    (s : β) : (front ++ x :: back).foldl step s = (front ++ back).foldl step (step s x) := by
  induction front generalizing s with
  | nil => rfl
  | cons y rest ih =>
    obtain ⟨other, others_rest⟩ := List.forall_mem_cons.mp others
    simp only [List.cons_append, List.foldl_cons, ih others_rest, commute s y x other]

-- Only the order among steps of one key counts.
theorem foldl_eq_of_projections [DecidableEq κ] {xs ys : List α}
    (same : ∀ k, xs.filter (fun x => key x = k) = ys.filter (fun y => key y = k)) (s : β) :
    xs.foldl step s = ys.foldl step s := by
  induction xs generalizing ys s with
  | nil =>
    cases ys with
    | nil => rfl
    | cons y rest => simpa using same (key y)
  | cons x rest ih =>
    -- The first step of its key in `ys` is `x` too, and only steps of other keys stand before it.
    have first := same (key x)
    rw [List.filter_cons_of_pos (by simp)] at first
    obtain ⟨front, back, rfl, others, -, behind⟩ := List.filter_eq_cons_iff.mp first.symm
    have others : ∀ y ∈ front, key y ≠ key x := by simpa using others
    have rest_same (k : κ) :
        rest.filter (fun x => key x = k) = (front ++ back).filter (fun y => key y = k) := by
      have whole := same k
      by_cases own : key x = k
      · subst own
        have none_before : front.filter (fun y => key y = key x) = [] := by simpa using others
        rw [List.filter_append, none_before, List.nil_append, behind]
      · simpa [List.filter_append, own] using whole
    rw [foldl_past commute others back s]
    exact ih rest_same (step s x)

end projections

namespace Choice

def named (name : ArgumentName) (ws : List Choice) : List Choice :=
  ws.filter fun w => w.name = name

theorem named_append (name : ArgumentName) (vs ws : List Choice) :
    named name (vs ++ ws) = named name vs ++ named name ws :=
  List.filter_append ..

theorem pairwise_named {name : ArgumentName} (once : name.isRepeatable = false) {ws : List Choice}
    (compatible : ws.Pairwise Choice.Compatible) : (named name ws).Pairwise fun _ _ => False := by
  apply List.pairwise_filter.mpr
  apply compatible.imp
  intro v w apart v_name w_name
  simp only [decide_eq_true_eq] at v_name w_name
  have repeatable := apart (v_name.trans w_name.symm)
  rw [w_name, once] at repeatable
  cases repeatable

end Choice

theorem Switches.turnOn_comm (s : Switches) (x y : Switch) :
    (s.turnOn x).turnOn y = (s.turnOn y).turnOn x := by
  ext z
  simp [Bool.or_left_comm]

namespace CommandLine

theorem choose_comm (c : CommandLine) {v w : Choice} (apart : v.name ≠ w.name) :
    (c.choose v).choose w = (c.choose w).choose v := by
  cases v <;> cases w
  -- Switches are the one field that two names share.
  case switch.switch x y => simp only [choose, Switches.turnOn_comm _ x y]
  all_goals first | rfl | exact absurd rfl apart

theorem foldl_switches (xs : List Switch) (c : CommandLine) :
    (xs.map Choice.switch).foldl choose c = { c with switches := xs.foldl Switches.turnOn c.switches } := by
  induction xs generalizing c with
  | nil => rfl
  | cons x rest ih => exact ih _

theorem foldl_pids (ps : List Int32) (c : CommandLine) :
    (ps.map Choice.pid).foldl choose c = { c with pids := c.pids ++ ps } := by
  induction ps generalizing c with
  | nil => simp
  | cons p rest ih => simp [ih, choose]

theorem foldl_taskNames (names : List String) (c : CommandLine) :
    (names.map Choice.taskName).foldl choose c = { c with taskNames := c.taskNames ++ names } := by
  induction names generalizing c with
  | nil => simp
  | cons name rest ih => simp [ih, choose]

end CommandLine

theorem Switches.foldl_turnOn (xs : List Switch) (s : Switches) (x : Switch) :
    (xs.foldl turnOn s).isOn x = true ↔ x ∈ xs ∨ s.isOn x = true := by
  induction xs generalizing s with
  | nil => simp
  | cons y rest ih => simp [ih, or_assoc, or_left_comm]

theorem Switches.foldl_turnOn_toList (s : Switches) : s.toList.foldl turnOn none = s := by
  ext x
  rw [Bool.eq_iff_iff, foldl_turnOn]
  simp [none, toList, Switch.mem_all]

namespace Configuration

open Choice (named named_append pairwise_named)

variable (k : Configuration)

def commandLine : CommandLine where
  switches := k.switches
  pids := k.filter.pids
  taskNames := k.filter.names
  output := k.output.name
  outputDirectory := k.output.directory
  format := k.format
  probeObject := k.probeObject
  pollTimeout := some k.pollTimeout
  pollInterval := some k.pollInterval
  batchSize := k.batchSize
  verbose := k.verbose

theorem foldl_choices : k.choices.foldl CommandLine.choose .unadorned = k.commandLine := by
  obtain ⟨switches, ⟨pids, names⟩, ⟨directory, name, _⟩, _, _, _, _, _, verbose⟩ := k
  simp only [choices, pidChoices, nameChoices, onceChoices, List.foldl_append,
    CommandLine.foldl_switches, CommandLine.foldl_pids, CommandLine.foldl_taskNames]
  cases name <;> cases directory <;> cases verbose <;>
    simp [CommandLine.choose, CommandLine.unadorned, CommandLine.blank, commandLine,
      Switches.foldl_turnOn_toList]

def onceNames : List ArgumentName :=
  Switch.all.map (fun x => .inl (.switch x)) ++ [.inr .output] ++ [.inr .outputDirectory]
    ++ [.inr .format, .inr .probeObject, .inr .pollTimeout, .inr .pollInterval, .inr .batchSize]
    ++ [.inl .verbose]

theorem onceChoices_names : (k.onceChoices.map Choice.name).Sublist onceNames := by
  have switches : ((k.switches.toList.map Choice.switch).map Choice.name).Sublist
      (Switch.all.map fun x => .inl (.switch x)) := by
    rw [List.map_map]
    exact List.filter_sublist.map _
  have output : ((k.output.name.map Choice.output).toList.map Choice.name).Sublist
      [.inr .output] := by
    cases k.output.name <;> simp [Choice.name]
  have directory : ((k.output.directory.map Choice.outputDirectory).toList.map Choice.name).Sublist
      [.inr .outputDirectory] := by
    cases k.output.directory <;> simp [Choice.name]
  have verbose : ((if k.verbose then [Choice.verbose] else []).map Choice.name).Sublist
      [.inl .verbose] := by
    cases k.verbose <;> simp [Choice.name]
  simp only [onceChoices, List.map_append]
  exact (((switches.append output).append directory).append (.refl _)).append verbose

theorem choices_compatible : k.choices.Pairwise Choice.Compatible := by
  have repeatable : ∀ v ∈ k.pidChoices ++ k.nameChoices, ∀ w, Choice.Compatible v w := by
    intro v member w same
    rw [← same]
    rcases List.mem_append.mp member with pid | named
    · obtain ⟨p, -, rfl⟩ := List.mem_map.mp pid
      rfl
    · obtain ⟨name, -, rfl⟩ := List.mem_map.mp named
      rfl
  have once : (k.onceChoices.map Choice.name).Nodup := k.onceChoices_names.nodup (by decide)
  apply List.pairwise_append.mpr
  constructor
  · exact List.pairwise_of_forall_mem_list fun v member w _ => repeatable v member w
  · exact ⟨(List.pairwise_map.mp once).imp fun apart same => absurd same apart,
      fun v member w _ => repeatable v member w⟩

/-- Choices that a configuration makes, in an order that keeps the pids and the task names. -/
structure Reordered (ws : List Choice) : Prop where
  perm : ws.Perm k.choices
  pids : k.pidChoices.Sublist ws
  names : k.nameChoices.Sublist ws

theorem exists_reordered {args : List String} (perm : args.Perm k.arguments)
    (pids : k.pidArguments.Sublist args) (names : k.nameArguments.Sublist args) :
    ∃ ws, args = ws.map Choice.argument ∧ k.Reordered ws := by
  have split := congrFun (congrFun (List.eq_map_comp_perm Choice.argument) args) k.choices
  obtain ⟨ws, rfl, reordered⟩ := split.mpr perm
  have lift {kept : List Choice} (sub : (kept.map Choice.argument).Sublist (ws.map Choice.argument)) :
      kept.Sublist ws := by
    obtain ⟨found, sub, same⟩ := List.sublist_map_iff.mp sub
    exact List.map_injective_iff.mpr Choice.argument_injective same ▸ sub
  exact ⟨ws, rfl, reordered, lift pids, lift names⟩

variable {k} {ws : List Choice}

theorem Reordered.compatible (order : k.Reordered ws) : ws.Pairwise Choice.Compatible := by
  have symm {v w : Choice} (compatible : Choice.Compatible v w) : Choice.Compatible w v := by
    intro same
    rw [← same]
    exact compatible same.symm
  exact (order.perm.pairwise_iff symm).mpr k.choices_compatible

theorem named_once {name : ArgumentName} (repeatable : name.isRepeatable = true) :
    named name k.onceChoices = [] := by
  have single : ∀ name ∈ onceNames, name.isRepeatable = false := by decide
  apply List.filter_eq_nil_iff.mpr
  intro w member same
  have listed := k.onceChoices_names.subset (List.mem_map_of_mem member)
  rw [decide_eq_true_eq] at same
  rw [← same, single _ listed] at repeatable
  cases repeatable

theorem named_pid : named (.inr .pid) k.choices = k.pidChoices := by
  have pids : named (.inr .pid) k.pidChoices = k.pidChoices := by
    simp [named, pidChoices, Choice.name]
  have names : named (.inr .pid) k.nameChoices = [] := by
    simp [named, nameChoices, Choice.name]
  have once : named (.inr .pid) k.onceChoices = [] := named_once rfl
  simp only [choices, named_append, pids, names, once, List.append_nil]

theorem named_taskName : named (.inr .taskName) k.choices = k.nameChoices := by
  have pids : named (.inr .taskName) k.pidChoices = [] := by
    simp [named, pidChoices, Choice.name]
  have names : named (.inr .taskName) k.nameChoices = k.nameChoices := by
    simp [named, nameChoices, Choice.name]
  have once : named (.inr .taskName) k.onceChoices = [] := named_once rfl
  simp only [choices, named_append, pids, names, once, List.nil_append, List.append_nil]

theorem Reordered.named_kept (order : k.Reordered ws) {kept : List Choice} {name : ArgumentName}
    (sub : kept.Sublist ws) (whole : named name k.choices = kept) : named name ws = kept := by
  have own : named name kept = kept := by simp [← whole, named]
  have inside : kept.Sublist (named name ws) := by
    rw [← own]
    exact sub.filter _
  have lengths : kept.length = (named name ws).length := by
    rw [← whole]
    exact (order.perm.filter _).length_eq.symm
  exact (inside.eq_of_length lengths).symm

theorem Reordered.named_eq (order : k.Reordered ws) (name : ArgumentName) :
    named name ws = named name k.choices := by
  cases repeatable : name.isRepeatable with
  | false =>
    -- On either side no two choices have this name, so there is no order in which they could differ.
    exact List.Perm.eq_of_pairwise (fun _ _ _ _ no => no.elim)
      (pairwise_named repeatable order.compatible)
      (pairwise_named repeatable k.choices_compatible) (order.perm.filter _)
  | true =>
    cases name with
    | inl f => cases repeatable
    | inr s =>
      cases s with
      | pid => exact (order.named_kept order.pids named_pid).trans named_pid.symm
      | taskName => exact (order.named_kept order.names named_taskName).trans named_taskName.symm
      | _ => cases repeatable

-- Every path has a character and every number fits 64 bits. The file is named by the format.
structure Expressible (k : Configuration) : Prop where
  format : k.output.format = k.format
  directory : k.output.directory ≠ some ""
  probeObject : k.probeObject ≠ ""
  pollTimeout : k.pollTimeout.nanoseconds < UInt64.size
  pollInterval : k.pollInterval.nanoseconds < UInt64.size
  batchSize : k.batchSize < UInt64.size

theorem Expressible.valid (expressible : k.Expressible) : ∀ w ∈ k.choices, w.Valid := by
  intro w member
  simp only [choices, pidChoices, nameChoices, onceChoices] at member
  cases w with
  | outputDirectory path =>
    have given : k.output.directory = some path := by simpa using member
    exact fun nothing => expressible.directory (nothing ▸ given)
  | probeObject path =>
    have given : path = k.probeObject := by simpa using member
    exact given ▸ expressible.probeObject
  | pollTimeout d =>
    have given : d = k.pollTimeout := by simpa using member
    exact given ▸ expressible.pollTimeout
  | pollInterval d =>
    have given : d = k.pollInterval := by simpa using member
    exact given ▸ expressible.pollInterval
  | batchSize n =>
    have given : n = k.batchSize := by simpa using member
    exact given ▸ expressible.batchSize
  | _ => trivial

theorem ofCommandLine_commandLine (expressible : k.Expressible) :
    ofCommandLine k.commandLine = { k with batchSize := max 1 k.batchSize } := by
  have output : (⟨k.output.directory, k.output.name, k.format⟩ : OutputFile) = k.output := by
    rw [← expressible.format]
  simp only [ofCommandLine, commandLine, output, Option.getD_some, Nat.max_comm]

/-- A configuration comes back, with a batch of one in place of none, from its arguments in any order of
them that keeps the pids among themselves and the task names among themselves. -/
theorem arguments_read_back (expressible : k.Expressible) {args : List String}
    (perm : args.Perm k.arguments) (pids : k.pidArguments.Sublist args)
    (names : k.nameArguments.Sublist args) :
    (CommandLine.read args).map ofCommandLine = .ok { k with batchSize := max 1 k.batchSize } := by
  obtain ⟨ws, rfl, order⟩ := k.exists_reordered perm pids names
  have valid : ∀ w ∈ ws, w.Valid :=
    fun w member => expressible.valid w (order.perm.mem_iff.mp member)
  have line : ws.foldl CommandLine.choose .unadorned = k.commandLine := by
    rw [← k.foldl_choices]
    exact foldl_eq_of_projections (fun c _ _ apart => c.choose_comm apart) order.named_eq _
  calc (CommandLine.read (ws.map Choice.argument)).map ofCommandLine
      = .ok (ofCommandLine (ws.foldl CommandLine.choose .unadorned)) := by
        rw [CommandLine.read_arguments valid order.compatible]
        rfl
    _ = .ok { k with batchSize := max 1 k.batchSize } := by
        rw [line, ofCommandLine_commandLine expressible]

theorem entangled_arguments_read_back :
    let k : Configuration :=
      { switches := .ofList [.utilAvgRt, .ipi]
        filter := ⟨[-7, 0, -2147483648], ["--ipi", "", "a=b"]⟩
        output := ⟨some "-/=", some "", .json⟩
        format := .json
        probeObject := "-"
        pollTimeout := ⟨0⟩
        pollInterval := ⟨18446744073709551615⟩
        batchSize := 0
        verbose := true }
    let args : List String :=
      ["--comm=--ipi", "--tx-batch-size=0", "--pid=-7", "--ipi", "--output=", "--comm=",
        "--poll-interval=18446744073709551615ns", "--pid=0", "--verbose", "--format=json",
        "--pid=-2147483648", "--output-path=-/=", "--bpf-obj=-", "--cpu-util-avg-rt",
        "--poll-timeout=0ns", "--comm=a=b"]
    k.Expressible ∧ args.Perm k.arguments ∧ k.pidArguments.Sublist args ∧
      k.nameArguments.Sublist args ∧
      (CommandLine.read args).map ofCommandLine = .ok { k with batchSize := 1 } := by
  intro k args
  have expressible : k.Expressible :=
    ⟨rfl, by decide, by decide, by decide, by decide, by decide⟩
  have perm : args.Perm k.arguments := by decide +kernel
  have pids : k.pidArguments.Sublist args := by decide +kernel
  have names : k.nameArguments.Sublist args := by decide +kernel
  exact ⟨expressible, perm, pids, names, arguments_read_back expressible perm pids names⟩

end Configuration

end SchedTelemetry
