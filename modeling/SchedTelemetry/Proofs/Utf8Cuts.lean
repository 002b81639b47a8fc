import SchedTelemetry.Proofs.Utf8Spelling

set_option autoImplicit false

namespace SchedTelemetry.Utf8

theorem encode_eq_toByteArray (s : String) : (encode s).toByteArray = s.toByteArray := by
  have same : encodeChar = String.utf8EncodeChar := funext encodeChar_eq_utf8EncodeChar
  rw [encode, encodeChars, same, ← String.ofList_toList (s := s), String.toByteArray_ofList,
    String.toList_ofList]
  rfl

theorem length_encode (s : String) : (encode s).length = s.utf8ByteSize := by
  rw [← List.size_toByteArray, encode_eq_toByteArray, String.size_toByteArray]

section cut

-- The parts that octets complete, and the character they leave under way.
def feed (state : Option Pending) : List UInt8 → List Part × Option Pending
  | [] => ([], state)
  | b :: rest =>
    ((next state b).1 ++ (feed (next state b).2 rest).1, (feed (next state b).2 rest).2)

theorem partsFrom_append (state : Option Pending) (xs ys : List UInt8) :
    partsFrom state (xs ++ ys) = (feed state xs).1 ++ partsFrom (feed state xs).2 ys := by
  induction xs generalizing state with
  | nil => rfl
  | cons b rest ih => rw [List.cons_append, partsFrom, ih, feed, List.append_assoc]

theorem partsFrom_some_ne_nil (p : Pending) (bytes : List UInt8) : partsFrom (some p) bytes ≠ [] := by
  induction bytes generalizing p with
  | nil => simp [partsFrom]
  | cons b rest ih =>
    rw [partsFrom, next]
    split
    · split
      · simp
      · exact ih _
    · simp

theorem partsFrom_ne_nil (state : Option Pending) {bytes : List UInt8} (some_octet : bytes ≠ []) :
    partsFrom state bytes ≠ [] := by
  cases state with
  | some p => exact partsFrom_some_ne_nil p bytes
  | none => exact (parts_spelled bytes).ne_nil some_octet

variable {n : Nat} {c : Char}

theorem parts_take_encodeChar (some_octet : 0 < n) (short : n < (encodeChar c).length) :
    parts ((encodeChar c).take n) = [none] := by
  have first : (encodeChar c).take n ≠ [] := List.ne_nil_of_length_pos (by simp; omega)
  have last : (encodeChar c).drop n ≠ [] := List.ne_nil_of_length_pos (by simp; omega)
  have whole := partsFrom_encodeChar c []
  rw [List.append_nil, ← List.take_append_drop n (encodeChar c), partsFrom_append] at whole
  have cut := partsFrom_append none ((encodeChar c).take n) []
  rw [List.append_nil] at cut
  -- The one part of the character is not there before its last octet.
  rcases List.append_eq_singleton_iff.mp whole with ⟨nothing, -⟩ | ⟨-, nothing⟩
  · rw [parts, cut, nothing]
    have shown := (parts_spelled ((encodeChar c).take n)).ne_nil first
    rw [parts, cut, nothing] at shown
    revert shown
    cases (feed none ((encodeChar c).take n)).2 with
    | none => exact fun shown => absurd rfl shown
    | some p => exact fun _ => rfl
  · exact absurd nothing (partsFrom_ne_nil _ last)

def wholeWithin (room : Nat) : List Char → List Char
  | [] => []
  | c :: rest =>
    if (encodeChar c).length ≤ room then c :: wholeWithin (room - (encodeChar c).length) rest else []

theorem wholeWithin_begins (room : Nat) (cs : List Char) : wholeWithin room cs <+: cs := by
  induction cs generalizing room with
  | nil => exact List.prefix_rfl
  | cons c rest ih =>
    rw [wholeWithin]
    split
    · exact (List.prefix_cons_inj c).mpr (ih _)
    · exact List.nil_prefix

theorem length_wholeWithin_le (room : Nat) (cs : List Char) :
    (encodeChars (wholeWithin room cs)).length ≤ room := by
  induction cs generalizing room with
  | nil => exact Nat.zero_le room
  | cons c rest ih =>
    rw [wholeWithin]
    split
    next fits =>
      have below := ih (room - (encodeChar c).length)
      simp only [encodeChars, List.flatMap_cons, List.length_append] at below ⊢
      omega
    next => exact Nat.zero_le room

theorem begins_wholeWithin {room : Nat} {cs ds : List Char} (begins : ds <+: cs)
    (fits : (encodeChars ds).length ≤ room) : ds <+: wholeWithin room cs := by
  induction cs generalizing room ds with
  | nil =>
    rw [List.prefix_nil.mp begins]
    exact List.nil_prefix
  | cons c rest ih =>
    cases ds with
    | nil => exact List.nil_prefix
    | cons d ds =>
      obtain ⟨rfl, more⟩ := List.cons_prefix_cons.mp begins
      simp only [encodeChars, List.flatMap_cons, List.length_append] at fits
      rw [wholeWithin, if_pos (by omega)]
      exact (List.prefix_cons_inj d).mpr (ih more (by rw [encodeChars]; omega))

theorem parts_take_encodeChars (room : Nat) (cs : List Char) :
    parts ((encodeChars cs).take room) =
      (wholeWithin room cs).map some ++
        if (encodeChars (wholeWithin room cs)).length < min room (encodeChars cs).length then [none]
        else [] := by
  induction cs generalizing room with
  | nil => simp [encodeChars, wholeWithin, parts, partsFrom]
  | cons c rest ih =>
    have octets (ds : List Char) : encodeChars (c :: ds) = encodeChar c ++ encodeChars ds := rfl
    rw [wholeWithin, octets]
    split
    next fits =>
      have first : (encodeChar c ++ encodeChars rest).take room =
          encodeChar c ++ (encodeChars rest).take (room - (encodeChar c).length) := by
        rw [List.take_append, List.take_of_length_le fits]
      have same_room : (encodeChar c ++ encodeChars (wholeWithin (room - (encodeChar c).length)
            rest)).length < min room (encodeChar c ++ encodeChars rest).length ↔
          (encodeChars (wholeWithin (room - (encodeChar c).length) rest)).length <
            min (room - (encodeChar c).length) (encodeChars rest).length := by
        simp only [List.length_append]
        omega
      rw [first, parts, partsFrom_encodeChar, ← parts, ih, octets]
      simp only [same_room, List.map_cons, List.cons_append]
    next no_room =>
      have within : (encodeChar c ++ encodeChars rest).take room = (encodeChar c).take room := by
        rw [List.take_append_of_le_length (by omega)]
      rw [within]
      rcases Nat.eq_zero_or_pos room with rfl | some_octet
      · rfl
      · rw [parts_take_encodeChar some_octet (by omega), if_pos]
        · rfl
        · simp only [encodeChars, List.flatMap_nil, List.length_nil, List.length_append]
          omega

end cut

section nul

theorem zero_mem_encodeChar_iff {c : Char} : 0 ∈ encodeChar c ↔ c = '\x00' := by
  constructor
  · intro zero
    have code : c.toNat = 0 := encodeChar_of_ascii_mem zero (by decide)
    rw [← Char.ofNat_toNat c, code]
  · rintro rfl
    decide

theorem zero_mem_encodeChars_iff {cs : List Char} : 0 ∈ encodeChars cs ↔ '\x00' ∈ cs := by
  simp only [encodeChars, List.mem_flatMap, zero_mem_encodeChar_iff, exists_eq_right]

theorem takeWhile_encodeChars (cs : List Char) :
    (encodeChars cs).takeWhile (· != 0) = encodeChars (cs.takeWhile (· ≠ '\x00')) := by
  induction cs with
  | nil => rfl
  | cons c rest ih =>
    rw [encodeChars, List.flatMap_cons]
    by_cases nul : c = '\x00'
    · subst nul
      rfl
    · have plain : ∀ b ∈ encodeChar c, (b != 0) = true := by
        intro b member
        simpa using fun zero : b = 0 => nul (zero_mem_encodeChar_iff.mp (zero ▸ member))
      rw [List.takeWhile_append_of_pos plain, ← encodeChars, ih, List.takeWhile_cons_of_pos (by simpa)]
      rfl

end nul

section infixes

variable {xs ys : List UInt8} {p cs : List Char} {c : Char} {b : UInt8}

theorem leads_of_first {after : List UInt8} (octets : encodeChar c = b :: after) :
    b.IsUTF8FirstByte := by
  rw [encodeChar_eq_utf8EncodeChar] at octets
  have here : 0 < (String.utf8EncodeChar c).length := by simp [octets]
  have octet : (String.utf8EncodeChar c)[0] = b := by simp [octets]
  rw [← octet, UInt8.isUTF8FirstByte_getElem_utf8EncodeChar]

theorem first_of_leads {after : List UInt8} (octets : encodeChar c = xs ++ b :: after)
    (leads : b.IsUTF8FirstByte) : xs = [] := by
  rw [encodeChar_eq_utf8EncodeChar] at octets
  have here : xs.length < (String.utf8EncodeChar c).length := by simp [octets]
  have octet : (String.utf8EncodeChar c)[xs.length] = b := by simp [octets]
  rw [← octet, UInt8.isUTF8FirstByte_getElem_utf8EncodeChar] at leads
  exact List.length_eq_zero_iff.mp leads

theorem whole_before (leads : b.IsUTF8FirstByte) (octets : encodeChars cs = xs ++ b :: ys) :
    ∃ before after, cs = before ++ after ∧ encodeChars after = b :: ys := by
  induction cs generalizing xs with
  | nil => simp [encodeChars] at octets
  | cons c rest ih =>
    rw [encodeChars, List.flatMap_cons, ← encodeChars] at octets
    rcases List.append_eq_append_iff.mp octets with ⟨more, -, later⟩ | ⟨cut, here, later⟩
    · obtain ⟨before, after, rfl, same⟩ := ih later
      exact ⟨c :: before, after, rfl, same⟩
    · cases cut with
      | nil => exact ⟨[c], rest, rfl, later.symm⟩
      | cons d more =>
        obtain ⟨rfl, same⟩ := List.cons_eq_cons.mp later
        obtain rfl := first_of_leads here leads
        refine ⟨[], c :: rest, rfl, ?_⟩
        rw [encodeChars, List.flatMap_cons, ← encodeChars, here, same]
        rfl

theorem begins_of_encodeChars_append (octets : encodeChars cs = encodeChars p ++ ys) : p <+: cs := by
  have chars := congrArg parts octets
  rw [parts_encodeChars, parts_encodeChars_append] at chars
  exact (List.prefix_map_iff_of_injective fun _ _ => Option.some.inj).mp ⟨_, chars.symm⟩

theorem infix_encodeChars_iff : encodeChars p <:+: encodeChars cs ↔ p <:+: cs := by
  constructor
  · rintro ⟨xs, ys, octets⟩
    cases p with
    | nil => exact List.nil_infix
    | cons c rest =>
      obtain ⟨b, more, first⟩ := List.exists_cons_of_ne_nil (encodeChar_ne_nil c)
      rw [List.append_assoc] at octets
      have shown : encodeChars (c :: rest) ++ ys = b :: (more ++ encodeChars rest ++ ys) := by
        simp [encodeChars, first]
      obtain ⟨before, after, rfl, same⟩ :=
        whole_before (leads_of_first first) (octets.symm.trans (congrArg (xs ++ ·) shown))
      have begins := begins_of_encodeChars_append (same.trans shown.symm)
      exact begins.isInfix.trans (List.suffix_append before after).isInfix
  · rintro ⟨before, after, rfl⟩
    exact ⟨encodeChars before, encodeChars after, by simp [encodeChars]⟩

end infixes

end SchedTelemetry.Utf8
