import Mathlib.Data.List.Perm.Basic
import SchedTelemetry.Session

set_option autoImplicit false

namespace SchedTelemetry

def through {κ : Type} [DecidableEq κ] (k : κ) (log : List (κ × Record)) : List Record :=
  (log.filter (fun e => e.1 = k)).map (·.2)

section through

variable {κ : Type} [DecidableEq κ]

theorem through_append (k : κ) (log more : List (κ × Record)) :
    through k (log ++ more) = through k log ++ through k more := by
  simp [through]

theorem through_tagged (k i : κ) (xs : List Record) :
    through k (xs.map (fun x => (i, x))) = if i = k then xs else [] := by
  by_cases same : i = k <;> simp [through, same, List.filter_map, Function.comp_def]

theorem count_through (k : κ) (x : Record) (log : List (κ × Record)) :
    (through k log).count x = log.count (k, x) := by
  induction log with
  | nil => rfl
  | cons e rest ih =>
    obtain ⟨i, y⟩ := e
    have split : through k ((i, y) :: rest) = through k [(i, y)] ++ through k rest :=
      through_append k [(i, y)] rest
    rw [split, List.count_append, ih, List.count_cons, Nat.add_comm]
    congr 1
    by_cases same : i = k <;> by_cases equal : y = x <;> simp [through, same, equal]

theorem perm_of_through_eq {log log' : List (κ × Record)}
    (agree : ∀ k, through k log = through k log') : log.Perm log' := by
  rw [List.perm_iff_count]
  rintro ⟨k, x⟩
  rw [← count_through, ← count_through, agree]

/-- A list made of the parts, each of them in its own order. -/
def Interleaves (parts : κ → List Record) (whole : List Record) : Prop :=
  ∃ log : List (κ × Record), log.map (·.2) = whole ∧ ∀ k, through k log = parts k

end through

def unbatched {κ : Type} (batches : List (κ × Batch)) : List (κ × Record) :=
  batches.flatMap (fun b => b.2.map (fun x => (b.1, x)))

theorem unbatched_append {κ : Type} (batches more : List (κ × Batch)) :
    unbatched (batches ++ more) = unbatched batches ++ unbatched more :=
  List.flatMap_append

theorem unbatched_tagged {κ : Type} (i : κ) (batches : List Batch) :
    unbatched (batches.map (fun b => (i, b))) = batches.flatten.map (fun x => (i, x)) := by
  rw [unbatched, List.flatMap_map, List.flatten_eq_flatMap, List.map_flatMap]
  rfl

theorem unbatched_records {κ : Type} (batches : List (κ × Batch)) :
    (unbatched batches).map (·.2) = batches.flatMap (·.2) := by
  simp [unbatched, List.map_flatMap, Function.comp_def]

theorem through_unbatched {κ : Type} [DecidableEq κ] (k : κ) (batches : List (κ × Batch)) :
    through k (unbatched batches) = (batches.filter (fun b => b.1 = k)).flatMap (·.2) := by
  induction batches with
  | nil => rfl
  | cons b rest ih =>
    have split : unbatched (b :: rest) = b.2.map (fun x => (b.1, x)) ++ unbatched rest := rfl
    rw [split, through_append, through_tagged, ih]
    by_cases same : b.1 = k <;> simp [same]

end SchedTelemetry
