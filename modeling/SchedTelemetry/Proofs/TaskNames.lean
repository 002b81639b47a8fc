import SchedTelemetry.Proofs.Numeral
import SchedTelemetry.Proofs.Utf8Cuts
import SchedTelemetry.TaskName

set_option autoImplicit false

namespace SchedTelemetry

def beforeNul (s : String) : String :=
  String.ofList (s.toList.takeWhile (· ≠ '\x00'))

structure KeptWithin (room : Nat) (s kept : String) : Prop where
  begins : kept.toList <+: s.toList
  fits : kept.utf8ByteSize ≤ room
  longest : ∀ t : String, t.toList <+: s.toList → t.utf8ByteSize ≤ room → t.toList <+: kept.toList

namespace Utf8

theorem keptWithin_wholeWithin (room : Nat) (s : String) :
    KeptWithin room s (String.ofList (wholeWithin room s.toList)) where
  begins := by
    rw [String.toList_ofList]
    exact wholeWithin_begins room s.toList
  fits := by
    rw [← length_encode, encode, String.toList_ofList]
    exact length_wholeWithin_le room s.toList
  longest := by
    intro t begins fits
    rw [← length_encode] at fits
    rw [String.toList_ofList]
    exact begins_wholeWithin begins fits

theorem decodeLossy_take_encode {room : Nat} {s : String} (cut : room < s.utf8ByteSize) :
    ∃ kept, KeptWithin room s kept ∧
      decodeLossy ((encode s).take room) =
        if kept.utf8ByteSize < room then kept.push replacement else kept := by
  refine ⟨_, keptWithin_wholeWithin room s, ?_⟩
  rw [← length_encode] at cut ⊢
  have least : min room (encodeChars s.toList).length = room := Nat.min_eq_left (Nat.le_of_lt cut)
  have size : (encode (String.ofList (wholeWithin room s.toList))).length =
      (encodeChars (wholeWithin room s.toList)).length := by
    rw [encode, String.toList_ofList]
  rw [decodeLossy, decodeLossyChars, encode, parts_take_encodeChars, least, size]
  split
  · rw [← String.toList_inj]
    simp [Function.comp_def]
  · simp [Function.comp_def]

end Utf8

namespace Text

def shortEscapes : List (Char × Char) :=
  [('0', '\x00'), ('t', '\t'), ('r', '\r'), ('n', '\n'), ('"', '"'), ('\\', '\\')]

-- What a character is quoted as.
inductive Escape (c : Char) : List Char → Prop
  | itself (plain : c ≠ '\\') : Escape c [c]
  | short {mark : Char} (listed : (mark, c) ∈ shortEscapes) : Escape c ['\\', mark]
  | numbered :
    Escape c (['\\', 'u', '\x7b'] ++ Numeral.digits 16 c.toNat ++ ['\x7d'])

theorem escape_escapeChar (c : Char) : Escape c (escapeChar c) := by
  unfold escapeChar
  split
  case h_7 plain =>
    split
    · exact .itself plain
    · exact .numbered
  all_goals exact .short (by decide)

theorem not_mem_hexDigits (n : Nat) : '\x7d' ∉ Numeral.digits 16 n := by
  intro member
  obtain ⟨d, digit, brace⟩ := Numeral.digits_are_digitChars (by decide) n _ member
  have other : ∀ d < 16, '\x7d' ≠ Numeral.digitChar d := by decide
  exact other d digit brace

-- No quoted character begins another one's.
theorem Escape.first_of_append {c d : Char} {xs ys rest rest' : List Char} (left : Escape c xs)
    (right : Escape d ys) (same : xs ++ rest = ys ++ rest') : c = d ∧ rest = rest' := by
  have told : ∀ p ∈ shortEscapes, p.1 ≠ 'u' ∧ ∀ q ∈ shortEscapes, p.1 = q.1 → p.2 = q.2 := by
    decide
  cases left with
  | itself plain =>
    cases right with
    | itself => exact List.cons.inj same
    | short | numbered => exact absurd (List.cons.inj same).1 plain
  | short listed =>
    cases right with
    | itself plain => exact absurd (List.cons.inj same).1.symm plain
    | short listed' =>
      obtain ⟨marks, tails⟩ := List.cons.inj (List.cons.inj same).2
      exact ⟨(told _ listed).2 _ listed' marks, tails⟩
    | numbered => exact absurd (List.cons.inj (List.cons.inj same).2).1 (told _ listed).1
  | numbered =>
    cases right with
    | itself plain => exact absurd (List.cons.inj same).1.symm plain
    | short listed => exact absurd (List.cons.inj (List.cons.inj same).2).1.symm (told _ listed).1
    | numbered =>
      simp only [List.append_assoc] at same
      obtain ⟨digits, tails⟩ := split_at_first (not_mem_hexDigits _) (not_mem_hexDigits _)
        (List.append_cancel_left same)
      exact ⟨Char.toNat_inj.mp (Numeral.digits_injective (by decide) (by decide) digits), tails⟩

theorem Escape.ne_nil {c : Char} {xs : List Char} (escape : Escape c xs) : xs ≠ [] := by
  cases escape <;> simp

theorem flatMap_escapeChar_injective {xs ys : List Char}
    (same : xs.flatMap escapeChar = ys.flatMap escapeChar) : xs = ys := by
  induction xs generalizing ys with
  | nil =>
    cases ys with
    | nil => rfl
    | cons y ys => simp [(escape_escapeChar _).ne_nil] at same
  | cons x xs ih =>
    cases ys with
    | nil => simp [(escape_escapeChar _).ne_nil] at same
    | cons y ys =>
      rw [List.flatMap_cons, List.flatMap_cons] at same
      obtain ⟨rfl, tails⟩ :=
        (escape_escapeChar x).first_of_append (escape_escapeChar y) same
      rw [ih tails]

theorem quoted_injective {s t : String} (same : quoted s = quoted t) : s = t := by
  have inside := (List.cons.inj (String.ofList_inj.mp same)).2
  exact String.toList_inj.mp (flatMap_escapeChar_injective (List.append_cancel_right inside))

end Text

namespace TaskName

-- Whatever a task calls itself, its printed form tells the name that is shown.
theorem debug_inj {name name' : TaskName} : name.debug = name'.debug ↔ name.text = name'.text :=
  ⟨Text.quoted_injective, congrArg Text.quoted⟩

theorem text_ofBytes (bytes : List UInt8) :
    (ofBytes bytes).text = Utf8.decodeLossy ((bytes.takeWhile (· != 0)).take width) :=
  congrArg Utf8.decodeLossy (FixedText.shown_fit_eq_take width bytes)

theorem text_ofString (s : String) :
    (ofString s).text = Utf8.decodeLossy ((Utf8.encode (beforeNul s)).take width) := by
  rw [ofString, text_ofBytes, Utf8.encode, Utf8.takeWhile_encodeChars, beforeNul, Utf8.encode,
    String.toList_ofList]

theorem text_of_width {bytes : List UInt8} (fills : bytes.length = 16) :
    (ofBytes bytes).text = Utf8.decodeLossy (bytes.takeWhile (· != 0)) := by
  have short : (bytes.takeWhile (· != 0)).length ≤ width :=
    Nat.le_trans (List.takeWhile_sublist _).length_le (Nat.le_of_eq fills)
  rw [text_ofBytes, List.take_of_length_le short]

/-- What a name keeps in its field of sixteen octets, and that the octets from the first NUL on do not
count. -/
theorem names_survive_field :
    (∀ s : String,
      ((beforeNul s).utf8ByteSize ≤ 16 → (ofString s).text = beforeNul s) ∧
      (16 < (beforeNul s).utf8ByteSize →
        ∃ kept, KeptWithin 16 (beforeNul s) kept ∧
          (ofString s).text = if kept.utf8ByteSize < 16 then kept.push '\uFFFD' else kept)) ∧
    (∀ b b' : List UInt8, b.length = 16 → b'.length = 16 →
      b.takeWhile (· != 0) = b'.takeWhile (· != 0) → (ofBytes b).text = (ofBytes b').text) ∧
    (∀ b : List UInt8, b.length = 16 → (b.takeWhile (· != 0)).toByteArray.IsValidUTF8 →
      (ofBytes b).text.toByteArray = (b.takeWhile (· != 0)).toByteArray) := by
  refine ⟨fun s => ⟨?_, ?_⟩, ?_, ?_⟩
  · intro short
    have fits : (Utf8.encode (beforeNul s)).length ≤ width := by rwa [Utf8.length_encode]
    rw [text_ofString, List.take_of_length_le fits, Utf8.decodeLossy_encode]
  · intro long
    rw [text_ofString]
    exact Utf8.decodeLossy_take_encode long
  · intro b b' fills fills' same
    rw [text_of_width fills, text_of_width fills', same]
  · intro b fills valid
    obtain ⟨cs, octets⟩ := Utf8.isValidUTF8_iff.mp valid
    have whole : Utf8.encode (String.ofList cs) = b.takeWhile (· != 0) := by
      rw [Utf8.encode, String.toList_ofList, octets]
    rw [text_of_width fills, ← whole, Utf8.decodeLossy_encode, Utf8.encode_eq_toByteArray]

theorem wide_name_survives :
    16 < (beforeNul "まままままま\x00x").utf8ByteSize ∧
      (∃ kept, KeptWithin 16 (beforeNul "まままままま\x00x") kept ∧
        (ofString "まままままま\x00x").text =
          if kept.utf8ByteSize < 16 then kept.push '\uFFFD' else kept) ∧
      (ofString "まままままま\x00x").text = "ままままま\uFFFD" ∧
      (ofString "ま\x00x").text = "ま" ∧
      (ofBytes ([0xE3, 0x81, 0xBE, 0] ++ List.replicate 12 0xE3)).text =
        (ofBytes ([0xE3, 0x81, 0xBE] ++ List.replicate 13 0)).text ∧
      (ofBytes ([0xE3, 0x81, 0xBE, 0] ++ List.replicate 12 0xE3)).text.toByteArray =
        [0xE3, 0x81, 0xBE].toByteArray := by
  obtain ⟨names, alike, exact_text⟩ := names_survive_field
  have long : 16 < (beforeNul "まままままま\x00x").utf8ByteSize := by decide +kernel
  have short : (beforeNul "ま\x00x").utf8ByteSize ≤ 16 := by decide +kernel
  have before : beforeNul "ま\x00x" = "ま" := by decide +kernel
  have valid : [0xE3, 0x81, 0xBE].toByteArray.IsValidUTF8 := ⟨['ま'], by decide +kernel⟩
  exact ⟨long, (names _).2 long, by decide +kernel, ((names _).1 short).trans before,
    alike _ _ rfl rfl rfl, exact_text _ rfl valid⟩

end TaskName

end SchedTelemetry
