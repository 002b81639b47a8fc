import SchedTelemetry.Text.Utf8

set_option autoImplicit false

namespace SchedTelemetry

theorem mapM_map_of_reads {α β γ : Type} {read? : β → Option γ} {written : α → β} {found : α → γ}
    (reads : ∀ a, read? (written a) = some (found a)) (xs : List α) :
    (xs.map written).mapM read? = some (xs.map found) := by
  induction xs with
  | nil => rfl
  | cons x rest ih => rw [List.map_cons, List.mapM_cons, reads, ih]; rfl

theorem mapM_map_of_inverse {α β : Type} {read? : β → Option α} {written : α → β}
    (inverse : ∀ a, read? (written a) = some a) (xs : List α) :
    (xs.map written).mapM read? = some xs :=
  (mapM_map_of_reads inverse xs).trans (congrArg some (List.map_id xs))

theorem mapM_eq_some_iff_of_inverse {α β : Type} {read? : β → Option α} {written : α → β}
    (inverse : ∀ b a, read? b = some a ↔ b = written a) {bs : List β} {xs : List α} :
    bs.mapM read? = some xs ↔ bs = xs.map written := by
  constructor
  · intro read
    induction bs generalizing xs with
    | nil => cases xs <;> simp_all
    | cons b rest ih =>
      rw [List.mapM_cons, Option.bind_eq_bind, Option.bind_eq_some_iff] at read
      obtain ⟨x, first, read⟩ := read
      rw [Option.bind_eq_bind, Option.bind_eq_some_iff] at read
      obtain ⟨ys, others, whole⟩ := read
      obtain rfl : x :: ys = xs := Option.some.inj whole
      rw [List.map_cons, (inverse b x).mp first, ih others]
  · rintro rfl
    exact mapM_map_of_inverse (fun x => (inverse _ x).mpr rfl) xs

namespace Utf8

theorem partsFrom_opens {b : UInt8} {p : Pending} (opens : lead b = .opens p) (rest : List UInt8) :
    partsFrom none (b :: rest) = partsFrom (some p) rest := by
  simp [partsFrom, next, start, opens]

section pending

variable {d bits owed : Nat} {low high : UInt8}

-- The octet that carries six bits `d` may come next.
def Admits (low high : UInt8) (d : Nat) : Prop :=
  d < 0x40 ∧ low.toNat ≤ 0x80 + d ∧ 0x80 + d ≤ high.toNat

theorem admits_tail (small : d < 0x40) : Admits 0x80 0xBF d :=
  ⟨small, Nat.le_add_right 0x80 d, by
    have top : (0xBF : UInt8).toNat = 0xBF := rfl
    omega⟩

theorem next_of_admits (admits : Admits low high d) :
    next (some ⟨bits, owed, low, high⟩) (UInt8.ofNat (0x80 + d)) =
      match owed with
      | 0 => ([some (Char.ofNat (bits * 0x40 + d))], none)
      | k + 1 => ([], some ⟨bits * 0x40 + d, k, 0x80, 0xBF⟩) := by
  obtain ⟨small, above, below⟩ := admits
  have octet : (UInt8.ofNat (0x80 + d)).toNat = 0x80 + d := UInt8.toNat_ofNat_of_lt' (by
    simp only [UInt8.size]
    omega)
  have within : low ≤ UInt8.ofNat (0x80 + d) ∧ UInt8.ofNat (0x80 + d) ≤ high := by
    rw [UInt8.le_iff_toNat_le, UInt8.le_iff_toNat_le, octet]
    exact ⟨above, below⟩
  cases owed <;> simp only [next, if_pos within, octet, Nat.add_sub_cancel_left]

theorem partsFrom_last (admits : Admits low high d) (rest : List UInt8) :
    partsFrom (some ⟨bits, 0, low, high⟩) (UInt8.ofNat (0x80 + d) :: rest) =
      some (Char.ofNat (bits * 0x40 + d)) :: partsFrom none rest := by
  rw [partsFrom, next_of_admits admits]
  rfl

theorem partsFrom_more (admits : Admits low high d) (rest : List UInt8) :
    partsFrom (some ⟨bits, owed + 1, low, high⟩) (UInt8.ofNat (0x80 + d) :: rest) =
      partsFrom (some ⟨bits * 0x40 + d, owed, 0x80, 0xBF⟩) rest := by
  rw [partsFrom, next_of_admits admits]
  rfl

end pending

section lead

variable {n : Nat}

theorem lead_two (above : 0x80 ≤ n) (below : n < 0x800) :
    lead (UInt8.ofNat (0xC0 + n / 0x40)) = .opens ⟨n / 0x40, 0, 0x80, 0xBF⟩ := by
  have octet : (UInt8.ofNat (0xC0 + n / 0x40)).toNat = 0xC0 + n / 0x40 :=
    UInt8.toNat_ofNat_of_lt' (by simp only [UInt8.size]; omega)
  simp only [lead, octet]
  rw [if_neg (by omega), if_neg (by omega), if_pos (by omega), Nat.add_sub_cancel_left]

theorem lead_three (above : 0x800 ≤ n) (below : n < 0x10000) (valid : n < 0xD800 ∨ 0xDFFF < n) :
    ∃ low high, lead (UInt8.ofNat (0xE0 + n / 0x1000)) = .opens ⟨n / 0x1000, 1, low, high⟩ ∧
      Admits low high (n / 0x40 % 0x40) := by
  have octet : (UInt8.ofNat (0xE0 + n / 0x1000)).toNat = 0xE0 + n / 0x1000 :=
    UInt8.toNat_ofNat_of_lt' (by simp only [UInt8.size]; omega)
  have six : n / 0x40 % 0x40 < 0x40 := Nat.mod_lt _ (by decide)
  simp only [lead, octet]
  rw [if_neg (by omega), if_neg (by omega), if_neg (by omega)]
  by_cases first : n / 0x1000 = 0
  · refine ⟨0xA0, 0xBF, by simp [first], six, ?_, (admits_tail six).2.2⟩
    have bottom : (0xA0 : UInt8).toNat = 0xA0 := rfl
    omega
  · rw [if_neg (by omega)]
    by_cases surrogates : n / 0x1000 = 0xD
    · refine ⟨0x80, 0x9F, by simp [surrogates], six, (admits_tail six).2.1, ?_⟩
      have top : (0x9F : UInt8).toNat = 0x9F := rfl
      omega
    · refine ⟨0x80, 0xBF, ?_, admits_tail six⟩
      rw [if_neg (by omega), if_pos (by omega), Nat.add_sub_cancel_left]

theorem lead_four (above : 0x10000 ≤ n) (below : n < 0x110000) :
    ∃ low high, lead (UInt8.ofNat (0xF0 + n / 0x40000)) = .opens ⟨n / 0x40000, 2, low, high⟩ ∧
      Admits low high (n / 0x1000 % 0x40) := by
  have octet : (UInt8.ofNat (0xF0 + n / 0x40000)).toNat = 0xF0 + n / 0x40000 :=
    UInt8.toNat_ofNat_of_lt' (by simp only [UInt8.size]; omega)
  have six : n / 0x1000 % 0x40 < 0x40 := Nat.mod_lt _ (by decide)
  simp only [lead, octet]
  rw [if_neg (by omega), if_neg (by omega), if_neg (by omega), if_neg (by omega), if_neg (by omega),
    if_neg (by omega)]
  by_cases first : n / 0x40000 = 0
  · refine ⟨0x90, 0xBF, by simp [first], six, ?_, (admits_tail six).2.2⟩
    have bottom : (0x90 : UInt8).toNat = 0x90 := rfl
    omega
  · rw [if_neg (by omega)]
    by_cases last : n / 0x40000 = 4
    · refine ⟨0x80, 0x8F, by simp [last], six, (admits_tail six).2.1, ?_⟩
      have top : (0x8F : UInt8).toNat = 0x8F := rfl
      omega
    · refine ⟨0x80, 0xBF, ?_, admits_tail six⟩
      rw [if_pos (by omega), Nat.add_sub_cancel_left]

end lead

theorem partsFrom_encodeChar (c : Char) (rest : List UInt8) :
    partsFrom none (encodeChar c ++ rest) = some c :: partsFrom none rest := by
  have valid : c.toNat < 0xD800 ∨ 0xDFFF < c.toNat ∧ c.toNat < 0x110000 := c.valid
  have same : Char.ofNat c.toNat = c := Char.ofNat_toNat c
  have six (k : Nat) : k % 0x40 < 0x40 := Nat.mod_lt k (by decide)
  simp only [encodeChar]
  split
  next one =>
    have octet : (UInt8.ofNat c.toNat).toNat = c.toNat :=
      UInt8.toNat_ofNat_of_lt' (by simp only [UInt8.size]; omega)
    simp [partsFrom, next, start, lead, octet, one, same]
  next more =>
    split
    next two =>
      have code : c.toNat / 0x40 * 0x40 + c.toNat % 0x40 = c.toNat := by omega
      simp only [List.cons_append, List.nil_append]
      rw [partsFrom_opens (lead_two (by omega) two), partsFrom_last (admits_tail (six _)), code, same]
    next =>
      split
      next three =>
        obtain ⟨low, high, opens, admits⟩ := lead_three (by omega) three (by omega)
        have code : (c.toNat / 0x1000 * 0x40 + c.toNat / 0x40 % 0x40) * 0x40 + c.toNat % 0x40 =
            c.toNat := by omega
        simp only [List.cons_append, List.nil_append]
        rw [partsFrom_opens opens, partsFrom_more admits, partsFrom_last (admits_tail (six _)), code,
          same]
      next =>
        obtain ⟨low, high, opens, admits⟩ := lead_four (n := c.toNat) (by omega) (by omega)
        have code : ((c.toNat / 0x40000 * 0x40 + c.toNat / 0x1000 % 0x40) * 0x40
            + c.toNat / 0x40 % 0x40) * 0x40 + c.toNat % 0x40 = c.toNat := by omega
        simp only [List.cons_append, List.nil_append]
        rw [partsFrom_opens opens, partsFrom_more admits, partsFrom_more (admits_tail (six _)),
          partsFrom_last (admits_tail (six _)), code, same]

theorem encodeChar_ne_nil (c : Char) : encodeChar c ≠ [] := by
  simp only [encodeChar]
  repeat' split
  all_goals simp

theorem length_le_encodeChars (cs : List Char) : cs.length ≤ (encodeChars cs).length := by
  induction cs with
  | nil => exact Nat.zero_le _
  | cons c rest ih =>
    have some_octet := List.length_pos_iff.mpr (encodeChar_ne_nil c)
    rw [encodeChars] at ih
    rw [encodeChars, List.flatMap_cons, List.length_append, List.length_cons]
    omega

theorem parts_encodeChars_append (cs : List Char) (bytes : List UInt8) :
    parts (encodeChars cs ++ bytes) = cs.map some ++ parts bytes := by
  induction cs with
  | nil => rfl
  | cons c rest ih =>
    have first : parts (encodeChars (c :: rest) ++ bytes) =
        some c :: parts (encodeChars rest ++ bytes) := by
      rw [encodeChars, List.flatMap_cons, List.append_assoc]
      exact partsFrom_encodeChar c _
    rw [first, ih]
    rfl

theorem parts_encodeChars (cs : List Char) : parts (encodeChars cs) = cs.map some := by
  have alone := parts_encodeChars_append cs []
  rwa [List.append_nil, show parts [] = [] from rfl, List.append_nil] at alone

theorem decodeChars?_encodeChars (cs : List Char) : decodeChars? (encodeChars cs) = some cs := by
  rw [decodeChars?, parts_encodeChars]
  exact @mapM_map_of_inverse _ _ id some (fun _ => rfl) cs

@[simp] theorem decode?_encode (s : String) : decode? (encode s) = some s := by
  simp [decode?, encode, decodeChars?_encodeChars]

theorem decodeLossy_encode (s : String) : decodeLossy (encode s) = s := by
  simp [decodeLossy, decodeLossyChars, encode, parts_encodeChars, Function.comp_def]

end Utf8

end SchedTelemetry
