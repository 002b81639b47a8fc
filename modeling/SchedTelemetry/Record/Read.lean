import SchedTelemetry.Json.Read
import SchedTelemetry.Record

set_option autoImplicit false

namespace SchedTelemetry

def Track.ofJson? (j : Json) : Option Track := do
  match ← (← j.member? "subject").string? with
  | "cpu" =>
    return .cpu (← (← j.member? "cpu").uint32?)
      (← CpuSignal.ofKey? (← (← j.member? "signal").string?))
  | "task" =>
    return .task (← (← j.member? "comm").string?) (← (← j.member? "pid").int32?)
      (← TaskSignal.ofKey? (← (← j.member? "signal").string?))
  | "overloaded" => return .overloaded
  | "overutilized" => return .overutilized
  | _ => none

def CodeAddress.ofJson? (j : Json) : Option CodeAddress := do
  return ⟨← (← j.member? "addr").uint64?, ← (← j.member? "name").stringOrNull?⟩

def DomainLevel.ofJson? (j : Json) : Option DomainLevel := do
  return ⟨← (← j.member? "name").string?, ← (← j.member? "balance_interval").uint64?⟩

def DomainStats.ofJson? (j : Json) : Option DomainStats := do
  return ⟨← (← j.member? "cpu").int32?,
    ← (← (← j.member? "levels").items?).mapM DomainLevel.ofJson?⟩

def Observation.ofJson? (j : Json) : Option Observation := do
  match ← (← j.member? "record").string? with
  | "counter" => return .counter (← Track.ofJson? j) (← (← j.member? "value").int64?)
  | "lb_entry" =>
    return .balanceEntry (← (← j.member? "this_cpu").int32?) (← (← j.member? "lb_cpu").int32?)
      (← (← j.member? "phase").string?)
  | "lb_exit" =>
    return .balanceExit (← (← j.member? "this_cpu").int32?) (← (← j.member? "lb_cpu").int32?)
  | "lb_sd_stats" => return .domains (← DomainStats.ofJson? (← j.member? "stats"))
  | "ipi" =>
    return .ipi (← (← j.member? "from_cpu").int32?) (← (← j.member? "target_cpu").int32?)
      (← CodeAddress.ofJson? (← j.member? "callsite"))
      (← CodeAddress.ofJson? (← j.member? "callback"))
  | _ => none

def Record.ofJson? (j : Json) : Option Record := do
  return ⟨← (← j.member? "ts").uint64?, ← Observation.ofJson? j⟩

end SchedTelemetry
