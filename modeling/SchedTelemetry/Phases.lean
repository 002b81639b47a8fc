import SchedTelemetry.Event

set_option autoImplicit false

namespace SchedTelemetry

structure PhaseKey where
  phase : BalancePhase
  thisCpu : Int32
  lbCpu : Int32
  deriving DecidableEq

inductive PhaseState where
  | closed
  | opened (since : UInt64)
  deriving DecidableEq, Repr

namespace PhaseState

def since? : PhaseState → Option UInt64
  | .closed => none
  | .opened since => some since

def isOpen (s : PhaseState) : Bool := s.since?.isSome

def next (s : PhaseState) (e : LoadBalance) : PhaseState :=
  match s, e.entry with
  | .closed, true => .opened e.ts
  | .opened since, true => .opened since
  | _, false => .closed

end PhaseState

def LoadBalance.key (e : LoadBalance) : PhaseKey :=
  ⟨e.phase, e.thisCpu, e.lbCpu⟩

-- The phases that had an event, with their states. A phase stays when it closes.
structure Phases where
  known : List (PhaseKey × PhaseState)
  distinct : (known.map Prod.fst).Nodup
  deriving DecidableEq

namespace Phases

def empty : Phases := ⟨[], List.nodup_nil⟩

instance : Inhabited Phases := ⟨empty⟩

def state (p : Phases) (k : PhaseKey) : PhaseState :=
  (p.known.lookup k).getD .closed

def put (k : PhaseKey) (s : PhaseState) :
    List (PhaseKey × PhaseState) → List (PhaseKey × PhaseState)
  | [] => [(k, s)]
  | entry :: rest => if entry.1 = k then (k, s) :: rest else entry :: put k s rest

theorem keys_put (k : PhaseKey) (s : PhaseState) (entries : List (PhaseKey × PhaseState)) :
    (put k s entries).map Prod.fst =
      if k ∈ entries.map Prod.fst then entries.map Prod.fst else entries.map Prod.fst ++ [k] := by
  induction entries with
  | nil => rfl
  | cons entry rest ih =>
    by_cases here : entry.1 = k
    · simp [put, here]
    · have other : k ≠ entry.1 := Ne.symm here
      rw [put, if_neg here, List.map_cons, ih]
      simp only [List.map_cons, List.mem_cons, other, false_or]
      split <;> rfl

theorem nodup_put {entries : List (PhaseKey × PhaseState)} (distinct : (entries.map Prod.fst).Nodup)
    (k : PhaseKey) (s : PhaseState) : ((put k s entries).map Prod.fst).Nodup := by
  rw [keys_put]
  split
  · exact distinct
  next new =>
    refine List.nodup_append.mpr ⟨distinct, by simp, ?_⟩
    intro key member last single same
    obtain rfl := List.mem_singleton.mp single
    exact new (same ▸ member)

def update (p : Phases) (e : LoadBalance) : Phases :=
  ⟨put e.key ((p.state e.key).next e) p.known, nodup_put p.distinct _ _⟩

def step (p : Phases) (e : LoadBalance) : PhaseState × Phases :=
  (p.state e.key, p.update e)

def opened (p : Phases) : List (PhaseKey × UInt64) :=
  p.known.filterMap (fun (k, s) => s.since?.map (k, ·))

def openCount (p : Phases) : Nat :=
  p.known.countP (fun entry => entry.2.isOpen)

end Phases

end SchedTelemetry
