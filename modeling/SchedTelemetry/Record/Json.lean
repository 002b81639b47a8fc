import SchedTelemetry.Json
import SchedTelemetry.Record

set_option autoImplicit false

namespace SchedTelemetry

namespace Track

def members : Track → List (String × Json)
  | .cpu c signal =>
    [("subject", .string "cpu"), ("cpu", .number c.toNat), ("signal", .string signal.key)]
  | .task name pid signal =>
    [("subject", .string "task"), ("comm", .string name), ("pid", .number pid.toInt),
      ("signal", .string signal.key)]
  | .overloaded => [("subject", .string "overloaded")]
  | .overutilized => [("subject", .string "overutilized")]

end Track

def CodeAddress.toJson (a : CodeAddress) : Json :=
  .object [("addr", .number a.address.toNat), ("name", (a.name.map Json.string).getD .null)]

def DomainLevel.toJson (l : DomainLevel) : Json :=
  .object [("name", .string l.name), ("balance_interval", .number l.balanceInterval.toNat)]

def DomainStats.toJson (s : DomainStats) : Json :=
  .object [("cpu", .number s.cpu.toInt), ("levels", .array (s.levels.map DomainLevel.toJson))]

namespace Observation

def tag : Observation → String
  | .counter .. => "counter"
  | .balanceEntry .. => "lb_entry"
  | .balanceExit .. => "lb_exit"
  | .domains .. => "lb_sd_stats"
  | .ipi .. => "ipi"

def members : Observation → List (String × Json)
  | .counter track value => track.members ++ [("value", .number value.toInt)]
  | .balanceEntry thisCpu lbCpu phase =>
    [("this_cpu", .number thisCpu.toInt), ("lb_cpu", .number lbCpu.toInt), ("phase", .string phase)]
  | .balanceExit thisCpu lbCpu =>
    [("this_cpu", .number thisCpu.toInt), ("lb_cpu", .number lbCpu.toInt)]
  | .domains stats => [("stats", stats.toJson)]
  | .ipi fromCpu targetCpu callsite callback =>
    [("from_cpu", .number fromCpu.toInt), ("target_cpu", .number targetCpu.toInt),
      ("callsite", callsite.toJson), ("callback", callback.toJson)]

end Observation

namespace Record

def toJson (r : Record) : Json :=
  .object (("record", .string r.observation.tag) :: ("ts", .number r.ts.toNat)
    :: r.observation.members)

def jsonText (r : Record) : List Char :=
  r.toJson.text

end Record

end SchedTelemetry
