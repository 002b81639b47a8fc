import SchedTelemetry.Proofs.Utf8
import SchedTelemetry.Text.Fixed

set_option autoImplicit false

namespace SchedTelemetry.Utf8

inductive Spelled : List UInt8 → List Part → Prop where
  | nil : Spelled [] []
  | char (c : Char) {bytes : List UInt8} {ps : List Part} (rest : Spelled bytes ps) :
    Spelled (encodeChar c ++ bytes) (some c :: ps)
  | illFormed {octets bytes : List UInt8} {ps : List Part} (some_octet : octets ≠ [])
    (rest : Spelled bytes ps) : Spelled (octets ++ bytes) (none :: ps)

section encodings

variable {n : Nat}

theorem toNat_ofNat_of_range (valid : n < 0xD800 ∨ 0xDFFF < n ∧ n < 0x110000) :
    (Char.ofNat n).toNat = n := by
  rw [Char.ofNat, dif_pos valid]
  rfl

theorem encodeChar_one (below : n < 0x80) : encodeChar (Char.ofNat n) = [UInt8.ofNat n] := by
  simp [encodeChar, toNat_ofNat_of_range (n := n) (by omega), below]

theorem encodeChar_two (above : 0x80 ≤ n) (below : n < 0x800) :
    encodeChar (Char.ofNat n) = [UInt8.ofNat (0xC0 + n / 0x40), UInt8.ofNat (0x80 + n % 0x40)] := by
  simp only [encodeChar, toNat_ofNat_of_range (n := n) (by omega)]
  rw [if_neg (by omega), if_pos below]

theorem encodeChar_three (above : 0x800 ≤ n) (below : n < 0x10000) (valid : n < 0xD800 ∨ 0xDFFF < n) :
    encodeChar (Char.ofNat n) = [UInt8.ofNat (0xE0 + n / 0x1000),
      UInt8.ofNat (0x80 + n / 0x40 % 0x40), UInt8.ofNat (0x80 + n % 0x40)] := by
  simp only [encodeChar, toNat_ofNat_of_range (n := n) (by omega)]
  rw [if_neg (by omega), if_neg (by omega), if_pos below]

theorem encodeChar_four (above : 0x10000 ≤ n) (below : n < 0x110000) :
    encodeChar (Char.ofNat n) = [UInt8.ofNat (0xF0 + n / 0x40000),
      UInt8.ofNat (0x80 + n / 0x1000 % 0x40), UInt8.ofNat (0x80 + n / 0x40 % 0x40),
      UInt8.ofNat (0x80 + n % 0x40)] := by
  simp only [encodeChar, toNat_ofNat_of_range (n := n) (by omega)]
  rw [if_neg (by omega), if_neg (by omega), if_neg (by omega)]

theorem ofNat_eq {b : UInt8} (same : n = b.toNat) : UInt8.ofNat n = b := by
  subst same
  exact UInt8.ofNat_toNat

end encodings

-- Behind the octets `seen`, the octets that a character under way owes complete its encoding.
def Completes (seen : List UInt8) (bits : Nat) (low high : UInt8) : Nat → Prop
  | 0 => ∀ b, low ≤ b → b ≤ high →
    encodeChar (Char.ofNat (bits * 0x40 + (b.toNat - 0x80))) = seen ++ [b]
  | owed + 1 => ∀ b, low ≤ b → b ≤ high →
    Completes (seen ++ [b]) (bits * 0x40 + (b.toNat - 0x80)) 0x80 0xBF owed

inductive UnderWay : Option Pending → List UInt8 → Prop where
  | none : UnderWay none []
  | some {p : Pending} {seen : List UInt8} (some_octet : seen ≠ [])
    (completes : Completes seen p.bits p.low p.high p.owed) : UnderWay (some p) seen

theorem tail_range {b : UInt8} (low : 0x80 ≤ b) (high : b ≤ 0xBF) :
    0x80 ≤ b.toNat ∧ b.toNat ≤ 0xBF :=
  ⟨UInt8.le_iff_toNat_le.mp low, UInt8.le_iff_toNat_le.mp high⟩

section lead

variable {b low high : UInt8} {bits : Nat}

theorem completes_two (code : b.toNat = 0xC0 + bits) (above : 2 ≤ bits) (below : bits < 0x20) :
    Completes [b] bits 0x80 0xBF 0 := by
  intro b₂ low₂ high₂
  obtain ⟨least, most⟩ := tail_range low₂ high₂
  rw [encodeChar_two (by omega) (by omega), ofNat_eq (b := b) (by omega),
    ofNat_eq (b := b₂) (by omega)]
  rfl

theorem completes_three (code : b.toNat = 0xE0 + bits) (below : bits < 0x10)
    (tail : 0x80 ≤ low.toNat ∧ high.toNat ≤ 0xBF) (overlong : bits = 0 → 0xA0 ≤ low.toNat)
    (surrogate : bits = 0xD → high.toNat ≤ 0x9F) : Completes [b] bits low high 1 := by
  intro b₂ low₂ high₂ b₃ low₃ high₃
  have least := UInt8.le_iff_toNat_le.mp low₂
  have most := UInt8.le_iff_toNat_le.mp high₂
  obtain ⟨least₃, most₃⟩ := tail_range low₃ high₃
  rw [encodeChar_three (by omega) (by omega) (by omega), ofNat_eq (b := b) (by omega),
    ofNat_eq (b := b₂) (by omega), ofNat_eq (b := b₃) (by omega)]
  rfl

theorem completes_four (code : b.toNat = 0xF0 + bits) (below : bits < 5)
    (tail : 0x80 ≤ low.toNat ∧ high.toNat ≤ 0xBF) (overlong : bits = 0 → 0x90 ≤ low.toNat)
    (large : bits = 4 → high.toNat ≤ 0x8F) : Completes [b] bits low high 2 := by
  intro b₂ low₂ high₂ b₃ low₃ high₃ b₄ low₄ high₄
  have least := UInt8.le_iff_toNat_le.mp low₂
  have most := UInt8.le_iff_toNat_le.mp high₂
  obtain ⟨least₃, most₃⟩ := tail_range low₃ high₃
  obtain ⟨least₄, most₄⟩ := tail_range low₄ high₄
  rw [encodeChar_four (by omega) (by omega), ofNat_eq (b := b) (by omega),
    ofNat_eq (b := b₂) (by omega), ofNat_eq (b := b₃) (by omega), ofNat_eq (b := b₄) (by omega)]
  rfl

theorem lead_whole {c : Char} (whole : lead b = .whole c) : encodeChar c = [b] := by
  simp only [lead] at whole
  split at whole
  next one =>
    obtain rfl := Lead.whole.inj whole
    simpa using encodeChar_one one
  next => repeat (first | split at whole | cases whole)

theorem lead_opens {p : Pending} (opens : lead b = .opens p) :
    Completes [b] p.bits p.low p.high p.owed := by
  simp only [lead] at opens
  repeat' split at opens
  all_goals simp only [reduceCtorEq, Lead.opens.injEq] at opens
  all_goals subst opens
  all_goals dsimp only
  -- One range of lead octets each, with the bounds of the second octet that go with it.
  next => exact completes_two (by omega) (by omega) (by omega)
  next => exact completes_three (by omega) (by decide) (by decide) (by decide) (by decide)
  next => exact completes_three (by omega) (by decide) (by decide) (by decide) (by decide)
  next => exact completes_three (by omega) (by omega) (by decide) (by omega) (by omega)
  next => exact completes_four (by omega) (by decide) (by decide) (by decide) (by decide)
  next => exact completes_four (by omega) (by omega) (by decide) (by omega) (by omega)
  next => exact completes_four (by omega) (by decide) (by decide) (by decide) (by decide)

end lead

section run

variable {rest : List UInt8}
  (later : ∀ state seen, UnderWay state seen → Spelled (seen ++ rest) (partsFrom state rest))

include later

theorem start_spelled (b : UInt8) :
    Spelled (b :: rest) ((start b).1 ++ partsFrom (start b).2 rest) := by
  unfold start
  split
  next c whole =>
    have char := Spelled.char c (later none [] .none)
    rwa [lead_whole whole] at char
  next p opens => exact later (some p) [b] (.some (by simp) (lead_opens opens))
  next stray => exact @Spelled.illFormed [b] _ _ (by simp) (later none [] .none)

theorem next_spelled (b : UInt8) {state : Option Pending} {seen : List UInt8}
    (under_way : UnderWay state seen) :
    Spelled (seen ++ b :: rest) ((next state b).1 ++ partsFrom (next state b).2 rest) := by
  cases under_way with
  | none => exact start_spelled later b
  | @some p _ some_octet completes =>
    obtain ⟨bits, owed, low, high⟩ := p
    by_cases range : low ≤ b ∧ b ≤ high
    · have more : seen ++ b :: rest = seen ++ [b] ++ rest := by simp
      simp only [next, if_pos range, more]
      cases owed with
      | zero =>
        rw [← completes b range.1 range.2]
        exact .char _ (later none [] .none)
      | succ owed => exact later _ _ (.some (by simp) (completes b range.1 range.2))
    · simp only [next, if_neg range]
      exact .illFormed some_octet (start_spelled later b)

end run

theorem partsFrom_spelled (bytes : List UInt8) {state : Option Pending} {seen : List UInt8}
    (under_way : UnderWay state seen) : Spelled (seen ++ bytes) (partsFrom state bytes) := by
  -- The octets of a character under way are spelled with the octets to come.
  induction bytes generalizing state seen with
  | nil =>
    cases under_way with
    | none => exact .nil
    | some some_octet => exact .illFormed some_octet .nil
  | cons b rest ih =>
    rw [partsFrom]
    exact next_spelled (fun _ _ => ih) b under_way

theorem parts_spelled (bytes : List UInt8) : Spelled bytes (parts bytes) :=
  partsFrom_spelled bytes .none

namespace Spelled

variable {bytes : List UInt8} {ps : List Part}

theorem length_le (spelled : Spelled bytes ps) : ps.length ≤ bytes.length := by
  induction spelled with
  | nil => simp
  | char c _ ih =>
    have size := List.length_pos_iff.mpr (encodeChar_ne_nil c)
    simp only [List.length_cons, List.length_append]
    omega
  | illFormed some_octet _ ih =>
    have size := List.length_pos_iff.mpr some_octet
    simp only [List.length_cons, List.length_append]
    omega

theorem ne_nil (spelled : Spelled bytes ps) (some_octet : bytes ≠ []) : ps ≠ [] := by
  cases spelled with
  | nil => exact absurd rfl some_octet
  | char | illFormed => simp

theorem zero_mem (spelled : Spelled bytes ps) (nul : some '\x00' ∈ ps) : 0 ∈ bytes := by
  have code : encodeChar '\x00' = [0] := by decide
  induction spelled with
  | nil => simp at nul
  | char c _ ih =>
    rcases List.mem_cons.mp nul with here | later
    · obtain rfl := Option.some.inj here
      simp [code]
    · exact List.mem_append_right _ (ih later)
  | illFormed _ _ ih => exact List.mem_append_right _ (ih (by simpa using nul))

end Spelled

section strict

variable {bytes : List UInt8} {cs : List Char}

theorem Spelled.eq_encodeChars (spelled : Spelled bytes (cs.map some)) : bytes = encodeChars cs := by
  induction cs generalizing bytes with
  | nil =>
    cases spelled
    rfl
  | cons c rest ih =>
    cases spelled with
    | char _ tail => rw [ih tail, encodeChars, encodeChars, List.flatMap_cons]

theorem decodeChars?_eq_some_iff : decodeChars? bytes = some cs ↔ bytes = encodeChars cs := by
  constructor
  · intro read
    have spelled := parts_spelled bytes
    rw [(@mapM_eq_some_iff_of_inverse _ _ id some (by simp) _ _).mp read] at spelled
    exact spelled.eq_encodeChars
  · rintro rfl
    exact decodeChars?_encodeChars cs

theorem encodeChars_injective {cs ds : List Char} (same : encodeChars cs = encodeChars ds) :
    cs = ds :=
  Option.some.inj ((decodeChars?_encodeChars cs).symm.trans (decodeChars?_eq_some_iff.mpr same))

theorem encodeChar_eq_utf8EncodeChar (c : Char) : encodeChar c = String.utf8EncodeChar c := by
  have valid : c.toNat < 0xD800 ∨ 0xDFFF < c.toNat ∧ c.toNat < 0x110000 := c.valid
  have one : c.toNat ≤ 0x7F ↔ c.toNat < 0x80 := by omega
  have two : c.toNat ≤ 0x7FF ↔ c.toNat < 0x800 := by omega
  have three : c.toNat ≤ 0xFFFF ↔ c.toNat < 0x10000 := by omega
  simp only [encodeChar, String.utf8EncodeChar, Char.toNat_val, one, two, three]
  -- The lead octet has room for the bits that its character has left.
  repeat' split
  · rfl
  · simp only [Nat.mod_eq_of_lt (show c.toNat / 64 < 0x20 by omega), Nat.add_comm]
  · simp only [Nat.mod_eq_of_lt (show c.toNat / 4096 < 0x10 by omega), Nat.add_comm]
  · simp only [Nat.mod_eq_of_lt (show c.toNat / 262144 < 0x08 by omega), Nat.add_comm]

theorem isValidUTF8_iff : bytes.toByteArray.IsValidUTF8 ↔ ∃ text, bytes = encodeChars text := by
  have same : encodeChar = String.utf8EncodeChar := funext encodeChar_eq_utf8EncodeChar
  constructor
  · rintro ⟨text, encoded⟩
    refine ⟨text, ?_⟩
    rw [encodeChars, same]
    exact List.toByteArray_inj.mp encoded
  · rintro ⟨text, rfl⟩
    refine ⟨text, ?_⟩
    rw [encodeChars, same]
    rfl

theorem encodeChar_of_ascii_mem {c : Char} {b : UInt8} (member : b ∈ encodeChar c)
    (ascii : b.toNat < 0x80) : c.toNat = b.toNat := by
  have valid : c.toNat < 0xD800 ∨ 0xDFFF < c.toNat ∧ c.toNat < 0x110000 := c.valid
  simp only [encodeChar] at member
  repeat' split at member
  all_goals simp only [List.mem_cons, List.not_mem_nil, or_false] at member
  · subst member
    rw [UInt8.toNat_ofNat_of_lt' (by simp only [UInt8.size]; omega)]
  -- Every other octet has its high bit set.
  all_goals
    rcases member with rfl | rfl | rfl | rfl <;>
      rw [UInt8.toNat_ofNat_of_lt' (by simp only [UInt8.size]; omega)] at ascii <;> omega

end strict

section lossy

variable {bytes : List UInt8}

theorem length_decodeLossy_le (bytes : List UInt8) : (decodeLossy bytes).length ≤ bytes.length := by
  simpa [decodeLossy, decodeLossyChars] using (parts_spelled bytes).length_le

theorem decodeLossy_ne_empty (some_octet : bytes ≠ []) : decodeLossy bytes ≠ "" := by
  have some_part := (parts_spelled bytes).ne_nil some_octet
  intro empty
  have chars := congrArg String.toList empty
  simp [decodeLossy, decodeLossyChars, some_part] at chars

theorem nul_not_mem_decodeLossy (free : 0 ∉ bytes) : '\x00' ∉ (decodeLossy bytes).toList := by
  intro nul
  simp only [decodeLossy, decodeLossyChars, String.toList_ofList, List.mem_map] at nul
  obtain ⟨part, member, shown⟩ := nul
  cases part with
  | none => exact absurd shown (by decide)
  | some c =>
    obtain rfl : c = '\x00' := shown
    exact free ((parts_spelled bytes).zero_mem member)

end lossy

end SchedTelemetry.Utf8

namespace SchedTelemetry.FixedText

theorem length_text_le (field : List UInt8) : (text field).length ≤ field.length :=
  Nat.le_trans (Utf8.length_decodeLossy_le _) (List.takeWhile_sublist _).length_le

theorem nul_not_mem_text (field : List UInt8) : '\x00' ∉ (text field).toList :=
  Utf8.nul_not_mem_decodeLossy (zero_not_mem_shown field)

end SchedTelemetry.FixedText
