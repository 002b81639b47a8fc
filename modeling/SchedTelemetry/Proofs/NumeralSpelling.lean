import Mathlib.Data.List.Induction
import SchedTelemetry.Proofs.Numeral

set_option autoImplicit false

namespace SchedTelemetry.Numeral

def Spells (base : Nat) (word : List Char) (n : Nat) : Prop :=
  ∃ zeros, word.map Char.toLower = List.replicate zeros '0' ++ digits base n

def SpellsUnsigned (base : Nat) (word : List Char) (n : Nat) : Prop :=
  Spells base word n ∨ ∃ rest, word = '+' :: rest ∧ Spells base rest n

theorem digits_append_digit {base m d : Nat} (two : 2 ≤ base) (some_digit : 0 < m) (digit : d < base) :
    digits base (m * base + d) = digits base m ++ [digitChar d] := by
  have large : ¬ (m * base + d < base ∨ base < 2) := by
    have := Nat.le_mul_of_pos_left base some_digit
    omega
  have quotient : (m * base + d) / base = m := by
    rw [Nat.mul_comm, Nat.mul_add_div (by omega), Nat.div_eq_of_lt digit, Nat.add_zero]
  have rest : (m * base + d) % base = d := by
    rw [Nat.mul_comm, Nat.mul_add_mod, Nat.mod_eq_of_lt digit]
  rw [digits, dif_neg large, quotient, rest]

theorem toNat_toLower (c : Char) :
    c.toLower.toNat = if 65 ≤ c.toNat ∧ c.toNat ≤ 90 then c.toNat + 32 else c.toNat := by
  have upper : c.val ≥ 'A'.val ∧ c.val ≤ 'Z'.val ↔ 65 ≤ c.toNat ∧ c.toNat ≤ 90 := by
    simp only [ge_iff_le, UInt32.le_iff_toNat_le]
    rfl
  unfold Char.toLower
  split
  next letter =>
    have range := upper.mp letter
    have code : (c.val + ('a'.val - 'A'.val)).toNat = c.toNat + 32 := by
      have gap : ('a'.val - 'A'.val).toNat = 32 := rfl
      rw [UInt32.toNat_add, gap]
      exact Nat.mod_eq_of_lt (by change c.toNat + 32 < _; omega)
    rw [if_pos range]
    exact code
  next other => rw [if_neg (mt upper.mpr other)]

section base

variable {base : Nat} (small : base ≤ 36)

include small

theorem digitValue?_eq_some_iff {c : Char} {d : Nat} :
    digitValue? base c = some d ↔ d < base ∧ c.toLower = digitChar d := by
  rw [← Char.toNat_inj, toNat_toLower]
  constructor
  · intro read
    simp only [digitValue?, Option.filter_eq_some_iff, decide_eq_true_eq] at read
    obtain ⟨value, digit⟩ := read
    refine ⟨digit, ?_⟩
    rw [toNat_digitChar (by omega)]
    repeat' split at value
    all_goals simp only [Option.some.injEq, reduceCtorEq] at value
    all_goals repeat' split
    all_goals omega
  · rintro ⟨digit, same⟩
    rw [toNat_digitChar (by omega)] at same
    simp only [digitValue?, Option.filter_eq_some_iff, decide_eq_true_eq]
    refine ⟨?_, digit⟩
    repeat' split
    all_goals repeat' split at same
    all_goals simp only [Option.some.injEq, reduceCtorEq]
    all_goals omega

theorem digitValue?_toLower (c : Char) : digitValue? base c.toLower = digitValue? base c := by
  apply Option.ext
  intro d
  have twice : c.toLower.toLower = c.toLower := by
    rw [← Char.toNat_inj, toNat_toLower c.toLower, toNat_toLower c]
    repeat' split
    all_goals omega
  rw [digitValue?_eq_some_iff small, digitValue?_eq_some_iff small, twice]

theorem valueFrom?_toLower (acc : Nat) (word : List Char) :
    valueFrom? base acc (word.map Char.toLower) = valueFrom? base acc word := by
  induction word generalizing acc with
  | nil => rfl
  | cons c rest ih => simp only [List.map_cons, valueFrom?, digitValue?_toLower small, ih]

variable (two : 2 ≤ base)

include two

theorem valueFrom?_zeros (zeros : Nat) : valueFrom? base 0 (List.replicate zeros '0') = some 0 := by
  have zero : digitValue? base '0' = some 0 :=
    (digitValue?_eq_some_iff small).mpr ⟨by omega, by decide⟩
  induction zeros with
  | zero => rfl
  | succ zeros ih => simpa [List.replicate_succ, valueFrom?, zero] using ih

theorem Spells.valueFrom?_eq {word : List Char} {n : Nat} (spells : Spells base word n) :
    valueFrom? base 0 word = some n := by
  obtain ⟨zeros, shape⟩ := spells
  rw [← valueFrom?_toLower small, shape, valueFrom?_append, valueFrom?_zeros small two]
  exact valueFrom?_digits two small n

theorem Spells.of_valueFrom? {word : List Char} {n : Nat} (some_char : word ≠ [])
    (read : valueFrom? base 0 word = some n) : Spells base word n := by
  -- The last digit is what the number leaves over, and the digits before it spell the quotient.
  induction word using List.reverseRecOn generalizing n with
  | nil => exact absurd rfl some_char
  | append_singleton front c ih =>
    rw [valueFrom?_append, Option.bind_eq_some_iff] at read
    obtain ⟨m, front_read, last_read⟩ := read
    rw [valueFrom?, Option.bind_eq_some_iff] at last_read
    obtain ⟨d, value, sum⟩ := last_read
    obtain ⟨digit, letter⟩ := (digitValue?_eq_some_iff small).mp value
    obtain rfl : m * base + d = n := Option.some.inj sum
    have single : digits base d = [digitChar d] := by
      rw [digits, dif_pos (Or.inl digit)]
    by_cases alone : front = []
    · subst alone
      obtain rfl : 0 = m := Option.some.inj front_read
      exact ⟨0, by simp [letter, single]⟩
    · obtain ⟨zeros, shape⟩ := ih alone front_read
      by_cases zero : m = 0
      · subst zero
        have lone_zero : digits base 0 = ['0'] := by
          rw [digits, dif_pos (Or.inl (by omega))]
          rfl
        refine ⟨zeros + 1, ?_⟩
        rw [lone_zero] at shape
        simp [shape, letter, single, List.replicate_succ']
      · refine ⟨zeros, ?_⟩
        rw [digits_append_digit two (Nat.pos_of_ne_zero zero) digit]
        simp [shape, letter]

theorem value?_eq_some_iff {word : List Char} {n : Nat} :
    value? base word = some n ↔ Spells base word n := by
  cases word with
  | nil =>
    simp [value?, Spells, digits_ne_nil]
  | cons c rest =>
    exact ⟨Spells.of_valueFrom? small two (by simp), fun spells => spells.valueFrom?_eq small two⟩

theorem unsigned?_eq_some_iff {word : List Char} {n : Nat} :
    unsigned? base word = some n ↔ SpellsUnsigned base word n := by
  unfold unsigned?
  split
  next rest =>
    have marked : ¬ Spells base ('+' :: rest) n := by
      rw [← value?_eq_some_iff small two]
      have sign : digitValue? base '+' = none := by simp [digitValue?]
      simp [value?, valueFrom?, sign]
    simp [SpellsUnsigned, marked, value?_eq_some_iff small two]
  next unmarked =>
    rw [value?_eq_some_iff small two]
    constructor
    · exact Or.inl
    · rintro (plain | ⟨rest, marked, _⟩)
      · exact plain
      · exact absurd marked (unmarked rest)

end base

end SchedTelemetry.Numeral
