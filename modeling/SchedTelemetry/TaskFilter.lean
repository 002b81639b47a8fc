set_option autoImplicit false

namespace SchedTelemetry

def occursIn {α : Type} [BEq α] (part : List α) : List α → Bool
  | [] => part.isEmpty
  | x :: rest => part.isPrefixOf (x :: rest) || occursIn part rest

theorem occursIn_iff {α : Type} [BEq α] [LawfulBEq α] (part xs : List α) :
    occursIn part xs = true ↔ part <:+: xs := by
  induction xs with
  | nil => simp [occursIn]
  | cons x rest ih => simp [occursIn, ih, List.infix_cons_iff]

structure TaskFilter where
  pids : List Int32
  names : List String
  deriving DecidableEq, Inhabited

namespace TaskFilter

def empty : TaskFilter := ⟨[], []⟩

def isEmpty (f : TaskFilter) : Bool :=
  f.pids.isEmpty && f.names.isEmpty

def accepts (f : TaskFilter) (pid : Int32) (name : String) : Bool :=
  f.isEmpty || f.pids.contains pid || f.names.any (fun part => occursIn part.toList name.toList)

@[simp] theorem accepts_empty (pid : Int32) (name : String) : empty.accepts pid name = true := rfl

end TaskFilter

end SchedTelemetry
