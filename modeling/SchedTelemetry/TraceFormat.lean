set_option autoImplicit false

namespace SchedTelemetry

inductive TraceFormat where
  | perfetto
  | json
  deriving DecidableEq, Repr, Inhabited

namespace TraceFormat

def all : List TraceFormat := [.perfetto, .json]

def name : TraceFormat → String
  | .perfetto => "perfetto"
  | .json => "json"

def fileEnding : TraceFormat → String
  | .perfetto => "perfetto-trace"
  | .json => "json"

structure UnknownFormat where
  given : String
  deriving DecidableEq

def UnknownFormat.message (e : UnknownFormat) : String :=
  "invalid variant: " ++ e.given

def foldCase (s : String) : List Char :=
  -- The names of formats have no letters outside A to Z.
  s.toList.map Char.toLower

def ofName (given : String) (ignoreCase : Bool) : Except UnknownFormat TraceFormat :=
  match all.find? (fun f =>
      if ignoreCase then foldCase f.name == foldCase given else f.name == given) with
  | some f => .ok f
  | none => .error ⟨given⟩

end TraceFormat

end SchedTelemetry
