import SchedTelemetry.Switches

set_option autoImplicit false

namespace SchedTelemetry

-- Programs that feed the same signals; any of those signals wants all of the programs.
structure ProbeGroup where
  programs : List String
  wantedBy : List Switch

namespace ProbeGroup

def all : List ProbeGroup :=
  [⟨["handle_pelt_cfs"], [.loadAvgCpu, .runnableAvgCpu, .utilAvgCpu]⟩,
    ⟨["handle_pelt_se"], [.loadAvgTask, .runnableAvgTask, .utilAvgTask]⟩,
    ⟨["handle_pelt_rt"], [.utilAvgRt]⟩,
    ⟨["handle_pelt_dl"], [.utilAvgDl]⟩,
    ⟨["handle_pelt_irq"], [.utilAvgIrq]⟩,
    ⟨["handle_pelt_thermal"], [.loadAvgThermal]⟩,
    ⟨["handle_util_est_cfs"], [.utilEstCpu]⟩,
    ⟨["handle_util_est_se"], [.utilEstTask]⟩,
    ⟨["handle_sched_update_nr_running"], [.nrRunning]⟩,
    ⟨["handle_cpu_idle", "handle_cpu_idle_miss"], [.idle]⟩,
    ⟨["handle_run_rebalance_domains_entry", "handle_run_rebalance_domains_exit",
        "handle_rebalance_domains_entry", "handle_rebalance_domains_exit",
        "handle_balance_fair_entry", "handle_balance_fair_exit",
        "handle_pick_next_task_fair_entry", "handle_pick_next_task_fair_exit",
        "handle_newidle_balance_entry", "handle_newidle_balance_exit",
        "handle_load_balance_entry", "handle_load_balance_exit"], [.loadBalance]⟩,
    ⟨["handle_ipi_send_cpu"], [.ipi]⟩,
    ⟨["handle_sched_process_free"], Switch.perTask⟩]

def isWanted (g : ProbeGroup) (s : Switches) : Bool :=
  g.wantedBy.any s.isOn

end ProbeGroup

structure ProbePlan where
  programs : List String

namespace ProbePlan

def alwaysDisabled : List String :=
  -- Their attachment is unreliable, or another program gives their signals.
  ["handle_nohz_idle_balance_entry", "handle_nohz_idle_balance_exit", "handle_cpu_frequency",
    "handle_softirq_entry", "handle_softirq_exit", "handle_sched_switch"]

def wanted (s : Switches) : List String :=
  (ProbeGroup.all.filter (·.isWanted s)).flatMap (·.programs)

def resolve (s : Switches) : ProbePlan :=
  ⟨((wanted s).filter (fun p => !alwaysDisabled.contains p)).eraseDups.mergeSort
    (fun a b => decide (a ≤ b))⟩

def isEnabled (plan : ProbePlan) (program : String) : Bool :=
  plan.programs.contains program

def isKnown (program : String) : Bool :=
  alwaysDisabled.contains program || ProbeGroup.all.any (·.programs.contains program)

def size (plan : ProbePlan) : Nat := plan.programs.length

def isEmpty (plan : ProbePlan) : Bool := plan.programs.isEmpty

end ProbePlan

end SchedTelemetry
