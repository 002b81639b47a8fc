import Mathlib.Data.List.Basic
import SchedTelemetry.Proofs.Numeral
import SchedTelemetry.Proofs.Writing

set_option autoImplicit false

namespace SchedTelemetry

open Perfetto

theorem toList_cpuLabel (c : Int) : (cpuLabel c).toList = "CPU".toList ++ Numeral.intDigits 10 c := by
  rw [cpuLabel, String.toList_append, Numeral.toList_decimal]

theorem Series.balanceInterval_name_injective {c c' : Int32} {level level' : String}
    (same : (balanceInterval c level).name = (balanceInterval c' level').name) :
    c = c' ∧ level = level' := by
  have chars := congrArg String.toList same
  simp only [name, String.toList_append, toList_cpuLabel, List.append_assoc] at chars
  have labels := List.append_cancel_left chars
  have space : " ".toList = [' '] := rfl
  rw [space, List.singleton_append, List.singleton_append] at labels
  -- The first space is the one behind the CPU, as no numeral has any.
  have free (n : Int) : ' ' ∉ Numeral.intDigits 10 n :=
    Numeral.not_mem_intDigits (by decide) (by decide) n
  obtain ⟨digits, behind⟩ := split_at_first (free _) (free _) labels
  exact ⟨Int32.toInt_inj.mp (Numeral.intDigits_injective digits),
    String.toList_inj.mp (List.append_cancel_right behind)⟩

namespace SeriesTable

theorem number?_empty (s : Series) : empty.number? s = none := by
  cases s <;> rfl

theorem number?_give (t : SeriesTable) (s s' : Series) :
    (t.give s).number? s' = if s' = s then some t.next else t.number? s' := by
  have found {α : Type} [DecidableEq α] (k k' : α) (n : UInt64) (entries : List (α × UInt64)) :
      ((k, n) :: entries).lookup k' = if k' = k then some n else entries.lookup k' := by
    rw [List.lookup_cons]
    by_cases same : k' = k
    · simp [same]
    · rw [if_neg same, beq_false_of_ne same]
  cases s with
  | counter track => cases s' <;> simp [give, number?, found]
  | balanceInterval c level =>
    -- The one table that is looked up by name.
    cases s' with
    | balanceInterval c' level' =>
      have told : (Series.balanceInterval c' level').name = (Series.balanceInterval c level).name ↔
          Series.balanceInterval c' level' = .balanceInterval c level := by
        constructor
        · intro same
          obtain ⟨rfl, rfl⟩ := Series.balanceInterval_name_injective same
          rfl
        · rintro ⟨⟩
          rfl
      simp only [give, number?, found, told]
    | counter | loadBalance | ipi => simp [give, number?]
  | loadBalance c => cases s' <;> simp [give, number?, found]
  | ipi c => cases s' <;> simp [give, number?, found]

theorem last_give (t : SeriesTable) (s : Series) : (t.give s).last = t.next := by
  cases s <;> rfl

end SeriesTable

-- The number of a series among those of `past`: its place in the order of first use, from one on.
def numberOf (past : List Series) (s : Series) : UInt64 :=
  UInt64.ofNat (past.eraseDups.idxOf s + 1)

section past

variable {past : List Series} {s : Series}

theorem eraseDups_seen (seen : s ∈ past) : (past ++ [s]).eraseDups = past.eraseDups := by
  rw [List.eraseDups_append]
  simp [List.removeAll, seen]

theorem eraseDups_unseen (unseen : s ∉ past) :
    (past ++ [s]).eraseDups = past.eraseDups ++ [s] := by
  rw [List.eraseDups_append]
  simp [List.removeAll, unseen, List.eraseDups_cons]

theorem numberOf_unseen (unseen : s ∉ past) :
    numberOf (past ++ [s]) s = UInt64.ofNat (past.eraseDups.length + 1) := by
  have fresh : s ∉ past.eraseDups := fun seen => unseen (List.mem_eraseDups.mp seen)
  rw [numberOf, eraseDups_unseen unseen, List.idxOf_append, if_neg fresh]
  simp

theorem numberOf_append (seen : s ∈ past) (more : List Series) :
    numberOf (past ++ more) s = numberOf past s := by
  rw [numberOf, numberOf, List.eraseDups_append, List.idxOf_append,
    if_pos (List.mem_eraseDups.mpr seen)]

theorem toNat_numberOf (bound : past.eraseDups.length < UInt64.size) (seen : s ∈ past) :
    (numberOf past s).toNat = past.eraseDups.idxOf s + 1 := by
  have place : past.eraseDups.idxOf s < past.eraseDups.length :=
    List.idxOf_lt_length_of_mem (List.mem_eraseDups.mpr seen)
  exact UInt64.toNat_ofNat_of_lt' (Nat.lt_of_le_of_lt place bound)

theorem numberOf_inj (bound : past.eraseDups.length < UInt64.size) (seen : s ∈ past) {s' : Series}
    (seen' : s' ∈ past) : numberOf past s = numberOf past s' ↔ s = s' := by
  constructor
  · intro same
    have places := congrArg UInt64.toNat same
    rw [toNat_numberOf bound seen, toNat_numberOf bound seen'] at places
    exact (List.idxOf_inj (List.mem_eraseDups.mpr seen)).mp (Nat.succ.inj places)
  · rintro rfl
    rfl

end past

structure SeriesTable.Numbers (t : SeriesTable) (past : List Series) : Prop where
  last_eq : t.last = UInt64.ofNat past.eraseDups.length
  number?_eq : ∀ s, t.number? s = if s ∈ past then some (numberOf past s) else none

namespace SeriesTable

theorem empty_numbers : empty.Numbers [] where
  last_eq := rfl
  number?_eq := number?_empty

theorem Numbers.next_eq {t : SeriesTable} {past : List Series} (numbers : t.Numbers past) :
    t.next = UInt64.ofNat (past.eraseDups.length + 1) := by
  rw [next, numbers.last_eq, UInt64.ofNat_add]
  rfl

theorem Numbers.add {t : SeriesTable} {past : List Series} (numbers : t.Numbers past) (s : Series) :
    (t.add s).Numbers (past ++ [s]) := by
  have known := numbers.number?_eq s
  by_cases seen : s ∈ past
  · rw [if_pos seen] at known
    have same : t.add s = t := by rw [SeriesTable.add, known]
    rw [same]
    refine ⟨by rw [eraseDups_seen seen, numbers.last_eq], ?_⟩
    intro s'
    have members : s' ∈ past ++ [s] ↔ s' ∈ past := by
      constructor
      · intro member
        rcases List.mem_append.mp member with before | last
        · exact before
        · exact List.mem_singleton.mp last ▸ seen
      · exact List.mem_append_left _
    rw [numbers.number?_eq, numberOf, numberOf, eraseDups_seen seen]
    simp only [members]
  · rw [if_neg seen] at known
    have given : t.add s = t.give s := by rw [SeriesTable.add, known]
    rw [given]
    constructor
    · rw [last_give, numbers.next_eq, eraseDups_unseen seen, List.length_append,
        List.length_singleton]
    · intro s'
      rw [number?_give]
      by_cases same : s' = s
      · subst same
        rw [if_pos rfl, if_pos (List.mem_append_right _ List.mem_cons_self), numbers.next_eq,
          numberOf_unseen seen]
      · rw [if_neg same, numbers.number?_eq]
        by_cases before : s' ∈ past
        · rw [if_pos before, if_pos (List.mem_append_left _ before), numberOf_append before]
        · rw [if_neg before, if_neg]
          simp [before, same]

theorem Numbers.known {t : SeriesTable} {past : List Series} (numbers : t.Numbers past) (s : Series) :
    t.number? s = if s ∈ past then some (numberOf (past ++ [s]) s) else none := by
  rw [numbers.number?_eq]
  by_cases seen : s ∈ past
  · rw [if_pos seen, if_pos seen, numberOf_append seen]
  · rw [if_neg seen, if_neg seen]

end SeriesTable

end SchedTelemetry
