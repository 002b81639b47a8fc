import SchedTelemetry.Text.Numeral

set_option autoImplicit false

namespace SchedTelemetry

theorem split_at_first {α : Type} {a : α} {xs ys xs' ys' : List α} (first : a ∉ xs)
    (first' : a ∉ xs') (same : xs ++ a :: ys = xs' ++ a :: ys') : xs = xs' ∧ ys = ys' := by
  induction xs generalizing xs' with
  | nil =>
    cases xs' with
    | nil => exact ⟨rfl, (List.cons.inj same).2⟩
    | cons x' rest' => exact absurd ((List.cons.inj same).1 ▸ List.mem_cons_self) first'
  | cons x rest ih =>
    cases xs' with
    | nil => exact absurd ((List.cons.inj same).1 ▸ List.mem_cons_self) first
    | cons x' rest' =>
      obtain ⟨rfl, tails⟩ := List.cons.inj same
      obtain ⟨rfl, behind⟩ :=
        ih (fun later => first (List.mem_cons_of_mem _ later))
          (fun later => first' (List.mem_cons_of_mem _ later)) tails
      exact ⟨rfl, behind⟩

namespace Numeral

theorem toNat_digitChar {d : Nat} (small : d < 36) :
    (digitChar d).toNat = if d < 10 then 48 + d else 87 + d := by
  have valid : (if d < 10 then 48 + d else 87 + d).isValidChar := by
    left
    split <;> omega
  rw [digitChar, Char.ofNat, dif_pos valid]
  rfl

theorem digitValue?_digitChar {base d : Nat} (small : base ≤ 36) (digit : d < base) :
    digitValue? base (digitChar d) = some d := by
  have code := toNat_digitChar (d := d) (by omega)
  simp only [digitValue?]
  by_cases ten : d < 10
  · rw [if_pos ten] at code
    have range : 48 ≤ 48 + d ∧ 48 + d ≤ 57 := by omega
    simp [code, range, digit]
  · rw [if_neg ten] at code
    have above : ¬ (48 ≤ 87 + d ∧ 87 + d ≤ 57) := by omega
    have range : 97 ≤ 87 + d ∧ 87 + d ≤ 122 := by omega
    simp [code, above, range, digit]

theorem valueFrom?_append (base acc : Nat) (xs ys : List Char) :
    valueFrom? base acc (xs ++ ys) = (valueFrom? base acc xs).bind (valueFrom? base · ys) := by
  induction xs generalizing acc with
  | nil => rfl
  | cons c rest ih =>
    rw [List.cons_append, valueFrom?, valueFrom?]
    cases digitValue? base c with
    | none => rfl
    | some d => exact ih (acc * base + d)

theorem valueFrom?_digits {base : Nat} (two : 2 ≤ base) (small : base ≤ 36) (n : Nat) :
    valueFrom? base 0 (digits base n) = some n := by
  induction n using Nat.strongRecOn with
  | _ n ih =>
    rw [digits]
    by_cases single : n < base
    · rw [dif_pos (Or.inl single), valueFrom?, digitValue?_digitChar small single]
      simp [valueFrom?]
    · have low : n % base < base := Nat.mod_lt n (by omega)
      rw [dif_neg (by omega), valueFrom?_append, ih (n / base) (Nat.div_lt_self (by omega) (by omega)),
        Option.bind_some, valueFrom?, digitValue?_digitChar small low]
      simp [valueFrom?, Nat.div_add_mod']

theorem digits_injective {base : Nat} (two : 2 ≤ base) (small : base ≤ 36) {m n : Nat}
    (same : digits base m = digits base n) : m = n := by
  have read := valueFrom?_digits two small m
  rw [same, valueFrom?_digits two small n] at read
  exact (Option.some.inj read).symm

theorem digits_are_digitChars {base : Nat} (two : 2 ≤ base) (n : Nat) :
    ∀ c ∈ digits base n, ∃ d, d < base ∧ c = digitChar d := by
  induction n using Nat.strongRecOn with
  | _ n ih =>
    intro c member
    rw [digits] at member
    by_cases single : n < base
    · rw [dif_pos (Or.inl single), List.mem_singleton] at member
      exact ⟨n, single, member⟩
    · rw [dif_neg (by omega), List.mem_append, List.mem_singleton] at member
      rcases member with front | last
      · exact ih (n / base) (Nat.div_lt_self (by omega) (by omega)) c front
      · exact ⟨n % base, Nat.mod_lt n (by omega), last⟩

theorem not_mem_digits {c : Char} (other : c.toNat < 48) (n : Nat) : c ∉ digits 10 n := by
  intro member
  obtain ⟨d, digit, rfl⟩ := digits_are_digitChars (by omega) n c member
  rw [toNat_digitChar (by omega), if_pos digit] at other
  omega

theorem not_mem_intDigits {c : Char} (other : c.toNat < 48) (sign : c ≠ '-') (n : Int) :
    c ∉ intDigits 10 n := by
  simp only [intDigits]
  split
  · rw [List.mem_cons, not_or]
    exact ⟨sign, not_mem_digits other _⟩
  · exact not_mem_digits other _

theorem isDigit_of_mem_digits {c : Char} {n : Nat} (member : c ∈ digits 10 n) :
    c.isDigit = true := by
  have all : ∀ d < 10, (digitChar d).isDigit = true := by decide
  obtain ⟨d, digit, rfl⟩ := digits_are_digitChars (by omega) n c member
  exact all d digit

theorem digits_ne_nil (base n : Nat) : digits base n ≠ [] := by
  rw [digits]
  split <;> simp

theorem value?_digits {base : Nat} (two : 2 ≤ base) (small : base ≤ 36) (n : Nat) :
    value? base (digits base n) = some n := by
  obtain ⟨c, rest, shape⟩ := List.exists_cons_of_ne_nil (digits_ne_nil base n)
  have read := valueFrom?_digits two small n
  rw [shape] at read ⊢
  exact read

theorem digits_zero_head {n : Nat} {rest : List Char} (zero : digits 10 n = '0' :: rest) : n = 0 := by
  induction n using Nat.strongRecOn generalizing rest with
  | _ n ih =>
    rw [digits] at zero
    by_cases single : n < 10
    · have digit : digitChar n = '0' := by
        rw [dif_pos (Or.inl single)] at zero
        exact (List.cons.inj zero).1
      have only : ∀ d < 10, digitChar d = '0' → d = 0 := by decide
      exact only n single digit
    · rw [dif_neg (by omega)] at zero
      obtain ⟨c, front, shape⟩ := List.exists_cons_of_ne_nil (digits_ne_nil 10 (n / 10))
      rw [shape, List.cons_append] at zero
      rw [(List.cons.inj zero).1] at shape
      have := ih (n / 10) (by omega) shape
      omega

theorem intDigits_injective {m n : Int} (same : intDigits 10 m = intDigits 10 n) : m = n := by
  have signed (k : Int) (j : Nat) : '-' :: digits 10 k.natAbs ≠ digits 10 j := by
    intro equal
    exact not_mem_digits (c := '-') (by decide) j (equal ▸ List.mem_cons_self)
  simp only [intDigits] at same
  by_cases hm : m < 0 <;> by_cases hn : n < 0
  · rw [if_pos hm, if_pos hn] at same
    have abs := digits_injective (by omega) (by omega) (List.cons.inj same).2
    omega
  · rw [if_pos hm, if_neg hn] at same
    exact absurd same (signed m _)
  · rw [if_neg hm, if_pos hn] at same
    exact absurd same.symm (signed n _)
  · rw [if_neg hm, if_neg hn] at same
    have abs := digits_injective (by omega) (by omega) same
    omega

theorem unsigned?_digits {base : Nat} (two : 2 ≤ base) (small : base ≤ 36) (n : Nat)
    (plain : '+' ∉ digits base n) : unsigned? base (digits base n) = some n := by
  unfold unsigned?
  split
  next rest shape => simp [shape] at plain
  next => exact value?_digits two small n

theorem signed?_intDigits (n : Int) : signed? 10 (intDigits 10 n) = some n := by
  have plain (m : Nat) : '+' ∉ digits 10 m := not_mem_digits (by decide) m
  have positive (m : Nat) : '-' ∉ digits 10 m := not_mem_digits (by decide) m
  unfold intDigits
  split
  next negative =>
    have read := value?_digits (by decide : 2 ≤ 10) (by decide) n.natAbs
    simp only [signed?, read, Option.map_some, Int.ofNat_eq_natCast, Option.some.injEq]
    omega
  next natural =>
    have read := unsigned?_digits (by decide : 2 ≤ 10) (by decide) n.natAbs (plain _)
    unfold signed?
    split
    next rest shape =>
      have sign := positive n.natAbs
      simp [shape] at sign
    next =>
      simp only [read, Option.map_some, Int.ofNat_eq_natCast, Option.some.injEq]
      omega

@[simp] theorem toList_decimal (n : Int) : (decimal n).toList = intDigits 10 n :=
  String.toList_ofList

@[simp] theorem toList_count (n : Nat) : (count n).toList = digits 10 n :=
  String.toList_ofList

theorem decimal_injective {m n : Int} (same : decimal m = decimal n) : m = n :=
  intDigits_injective (by simpa using congrArg String.toList same)

theorem count_injective {m n : Nat} (same : count m = count n) : m = n := by
  have digits_same : digits 10 m = digits 10 n := by simpa using congrArg String.toList same
  exact digits_injective (by decide) (by decide) digits_same

end Numeral

end SchedTelemetry
