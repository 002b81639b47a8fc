import SchedTelemetry.Json.Token
import SchedTelemetry.Proofs.Numeral

set_option autoImplicit false

namespace SchedTelemetry.Json

theorem lexFrom_cons {state next : LexState} {c : Char} {ts : List Token}
    (step : lexStep state c = some (ts, next)) (rest : List Char) :
    lexFrom state (c :: rest) = (lexFrom next rest).map (ts ++ ·) := by
  rw [lexFrom, step]
  cases lexed : lexFrom next rest <;> simp [lexed]

theorem lexFrom_silent {state next : LexState} {c : Char}
    (step : lexStep state c = some ([], next)) (rest : List Char) :
    lexFrom state (c :: rest) = lexFrom next rest := by
  rw [lexFrom_cons step]
  exact Option.map_id'

theorem lexFrom_punctuation {c : Char} {t : Token} (mark : punctuation? c = some t)
    (rest : List Char) :
    lexFrom .between (c :: rest) = (lexFrom .between rest).map (t :: ·) := by
  have step : lexStep .between c = some ([t], .between) := by rw [lexStep, lexStart, mark]
  exact lexFrom_cons step rest

section strings

variable {read : List Char} {c : Char}

theorem lexStep_code {value owed d : Nat} (digit : d < 16) :
    lexStep (.inCode read value (owed + 1)) (Numeral.digitChar d) =
      some ([], .inCode read (16 * value + d) owed) := by
  simp [lexStep, Numeral.digitValue?_digitChar (by decide : 16 ≤ 36) digit]

theorem lexStep_lastCode {value d : Nat} (digit : d < 16) (code : 16 * value + d = c.toNat) :
    lexStep (.inCode read value 0) (Numeral.digitChar d) = some ([], .inString (c :: read)) := by
  have valid : (16 * value + d).isValidChar := code ▸ c.valid
  have same : Char.ofNatAux (16 * value + d) valid = c := by
    rw [← Char.ofNat_toNat c, ← code, Char.ofNat, dif_pos valid]
  rw [lexStep, Numeral.digitValue?_digitChar (by decide : 16 ≤ 36) digit]
  show (if h : (16 * value + d).isValidChar then
    some ([], LexState.inString (Char.ofNatAux (16 * value + d) h :: read)) else none) = _
  rw [dif_pos valid, same]

theorem lexFrom_code (small : c.toNat < 0x10000) (rest : List Char) :
    lexFrom (.inString read) ('\\' :: 'u' :: hexDigits4 c.toNat ++ rest) =
      lexFrom (.inString (c :: read)) rest := by
  have nibble (k : Nat) : k % 16 < 16 := Nat.mod_lt k (by decide)
  have code : 16 * (16 * (16 * (16 * 0 + c.toNat / 4096 % 16) + c.toNat / 256 % 16)
      + c.toNat / 16 % 16) + c.toNat % 16 = c.toNat := by omega
  have opens : lexStep (.inString read) '\\' = some ([], .inEscape read) := rfl
  have unit : lexStep (.inEscape read) 'u' = some ([], .inCode read 0 3) := rfl
  simp only [hexDigits4, List.cons_append, List.nil_append]
  rw [lexFrom_silent opens, lexFrom_silent unit, lexFrom_silent (lexStep_code (nibble _)),
    lexFrom_silent (lexStep_code (nibble _)), lexFrom_silent (lexStep_code (nibble _)),
    lexFrom_silent (lexStep_lastCode (nibble _) code)]

theorem lexFrom_short {e : Char} (short : escaped? e = some c) (rest : List Char) :
    lexFrom (.inString read) ('\\' :: e :: rest) = lexFrom (.inString (c :: read)) rest := by
  have opens : lexStep (.inString read) '\\' = some ([], .inEscape read) := rfl
  have not_unit : e ≠ 'u' := by
    rintro rfl
    cases short
  have letter : lexStep (.inEscape read) e = some ([], .inString (c :: read)) := by
    rw [lexStep, if_neg not_unit, short]
    rfl
  rw [lexFrom_silent opens, lexFrom_silent letter]

theorem lexFrom_escapeChar (rest : List Char) :
    lexFrom (.inString read) (escapeChar c ++ rest) = lexFrom (.inString (c :: read)) rest := by
  simp only [escapeChar]
  split
  case h_8 not_quote not_backslash _ _ _ _ _ =>
    split
    next control => exact lexFrom_code (by omega) rest
    next plain =>
      have stays : lexStep (.inString read) c = some ([], .inString (c :: read)) := by
        rw [lexStep, if_neg not_quote, if_neg not_backslash, if_neg plain]
      exact lexFrom_silent stays rest
  -- The other characters have a short form each.
  all_goals exact lexFrom_short rfl rest

theorem lexFrom_content (cs rest : List Char) :
    lexFrom (.inString read) (cs.flatMap escapeChar ++ rest) =
      lexFrom (.inString (cs.reverse ++ read)) rest := by
  induction cs generalizing read with
  | nil => rfl
  | cons c tail ih =>
    rw [List.flatMap_cons, List.append_assoc, lexFrom_escapeChar, ih, List.reverse_cons,
      List.append_assoc]
    rfl

theorem lexFrom_stringText (s : String) (rest : List Char) :
    lexFrom .between (stringText s ++ rest) = (lexFrom .between rest).map (.string s :: ·) := by
  have opens : lexStep .between '"' = some ([], .inString []) := rfl
  have closes : lexStep (.inString s.toList.reverse) '"' = some ([.string s], .between) := by
    simp [lexStep]
  have text : stringText s ++ rest = '"' :: (s.toList.flatMap escapeChar ++ '"' :: rest) := by
    simp [stringText]
  rw [text, lexFrom_silent opens, lexFrom_content, List.append_nil, lexFrom_cons closes]
  rfl

end strings

-- No digit and no letter follows, so that a number or a word ends here.
def Ends (rest : List Char) : Prop :=
  ∀ c ∈ rest.head?, c.isDigit = false ∧ c.isAlpha = false

theorem ends_cons {c : Char} {rest : List Char} (digit : c.isDigit = false)
    (letter : c.isAlpha = false) : Ends (c :: rest) := by
  rintro _ ⟨⟩
  exact ⟨digit, letter⟩

theorem lexAfter_some (t : Token) (c : Char) :
    lexAfter (some t) c = (lexStart c).map (fun (ts, state) => (t :: ts, state)) := by
  rw [lexAfter]
  cases lexStart c <;> rfl

theorem lexFrom_ends {state : LexState} {t : Token} {rest : List Char}
    (last : lexEnd state = some [t])
    (next : ∀ c ∈ rest.head?, lexStep state c = lexAfter (some t) c) :
    lexFrom state rest = (lexFrom .between rest).map (t :: ·) := by
  cases rest with
  | nil => exact last
  | cons c tail =>
    have step : lexStep state c = lexAfter (some t) c := next c rfl
    rw [lexFrom, step, lexAfter_some, lexFrom, lexStep]
    cases lexStart c with
    | none => rfl
    | some started =>
      cases lexed : lexFrom started.2 tail <;> simp [lexed]

theorem lexFrom_digits {read ds : List Char} (digits : ∀ c ∈ ds, c.isDigit = true)
    (rest : List Char) :
    lexFrom (.inNumber read) (ds ++ rest) = lexFrom (.inNumber (ds.reverse ++ read)) rest := by
  induction ds generalizing read with
  | nil => rfl
  | cons d tail ih =>
    have digit : d.isDigit = true := digits d List.mem_cons_self
    have step : lexStep (.inNumber read) d = some ([], .inNumber (d :: read)) := by
      rw [lexStep, if_pos digit]
    rw [List.cons_append, lexFrom_silent step, ih (fun c later => digits c (List.mem_cons_of_mem _ later)),
      List.reverse_cons, List.append_assoc]
    rfl

theorem lexFrom_number {read rest : List Char} {n : Int} (whole : numeralToken? read = some (.number n))
    (ends : Ends rest) :
    lexFrom (.inNumber read) rest = (lexFrom .between rest).map (.number n :: ·) := by
  apply lexFrom_ends
  · rw [lexEnd, whole]
    rfl
  · intro c first
    rw [lexStep, if_neg (by simp [(ends c first).1]), whole]

theorem lexStep_numeral {c : Char} (start : isNumeralStart c = true) :
    lexStep .between c = some ([], .inNumber [c]) := by
  have mark : punctuation? c = none := by
    unfold punctuation?
    split <;> simp_all [isNumeralStart]
  have not_blank : ¬ isBlank c = true := by
    intro blank
    simp only [isBlank, Bool.or_eq_true, beq_iff_eq] at blank
    rcases blank with ((rfl | rfl) | rfl) | rfl <;> exact absurd start (by decide)
  have not_quote : c ≠ '"' := by
    rintro rfl
    exact absurd start (by decide)
  simp only [lexStep, lexStart, mark, if_neg not_blank, if_neg not_quote, if_pos start]

theorem natural?_digits (n : Nat) : integer?.natural? (Numeral.digits 10 n) = some n := by
  have value := Numeral.value?_digits (by decide : 2 ≤ 10) (by decide) n
  unfold integer?.natural?
  split
  next zero => rw [Numeral.digits_zero_head zero]
  next tail some_left zero =>
    have single : Numeral.digits 10 0 = ['0'] := by
      rw [Numeral.digits, dif_pos (Or.inl (by decide))]
      rfl
    rw [Numeral.digits_zero_head zero, single] at zero
    exact absurd (List.cons.inj zero).2.symm some_left
  next => exact value

theorem integer?_intDigits (n : Int) : integer? (Numeral.intDigits 10 n) = some n := by
  have read := natural?_digits n.natAbs
  simp only [Numeral.intDigits]
  split
  next negative =>
    rw [integer?, read]
    simp only [Option.map_some, Option.some.injEq, Int.ofNat_eq_natCast]
    omega
  next =>
    obtain ⟨c, rest, shape⟩ := List.exists_cons_of_ne_nil (Numeral.digits_ne_nil 10 n.natAbs)
    have digit : c.isDigit = true := Numeral.isDigit_of_mem_digits (shape ▸ List.mem_cons_self)
    have unsigned : c ≠ '-' := by
      rintro rfl
      exact absurd digit (by decide)
    unfold integer?
    split
    next signed =>
      rw [shape] at signed
      exact absurd (List.cons.inj signed).1 unsigned
    next =>
      rw [read]
      simp only [Option.map_some, Option.some.injEq, Int.ofNat_eq_natCast]
      omega

theorem lexFrom_intDigits (n : Int) {rest : List Char} (ends : Ends rest) :
    lexFrom .between (Numeral.intDigits 10 n ++ rest) =
      (lexFrom .between rest).map (.number n :: ·) := by
  obtain ⟨c, ds, shape, start, digits⟩ : ∃ c ds, Numeral.intDigits 10 n = c :: ds ∧
      isNumeralStart c = true ∧ ∀ d ∈ ds, d.isDigit = true := by
    have all {c : Char} (member : c ∈ Numeral.digits 10 n.natAbs) : c.isDigit = true :=
      Numeral.isDigit_of_mem_digits member
    simp only [Numeral.intDigits]
    split
    · exact ⟨_, _, rfl, rfl, fun d member => all member⟩
    · obtain ⟨c, ds, shape⟩ := List.exists_cons_of_ne_nil (Numeral.digits_ne_nil 10 n.natAbs)
      rw [shape] at all ⊢
      refine ⟨c, ds, rfl, ?_, fun d member => all (List.mem_cons_of_mem _ member)⟩
      simp [isNumeralStart, all List.mem_cons_self]
  have whole : numeralToken? (ds.reverse ++ [c]) = some (.number n) := by
    have read : (ds.reverse ++ [c]).reverse = Numeral.intDigits 10 n := by simp [shape]
    rw [numeralToken?, read, integer?_intDigits]
    rfl
  rw [shape, List.cons_append, lexFrom_silent (lexStep_numeral start), lexFrom_digits digits,
    lexFrom_number whole ends]

theorem lexFrom_null {rest : List Char} (ends : Ends rest) :
    lexFrom .between (['n', 'u', 'l', 'l'] ++ rest) = (lexFrom .between rest).map (.null :: ·) := by
  have starts : lexStep .between 'n' = some ([], .inWord ['n']) := rfl
  have goes {read : List Char} {c : Char} (letter : c.isAlpha = true) :
      lexStep (.inWord read) c = some ([], .inWord (c :: read)) := by
    rw [lexStep, if_pos letter]
  have word : lexFrom .between (['n', 'u', 'l', 'l'] ++ rest) =
      lexFrom (.inWord ['l', 'l', 'u', 'n']) rest := by
    simp only [List.cons_append, List.nil_append]
    rw [lexFrom_silent starts, lexFrom_silent (goes rfl), lexFrom_silent (goes rfl),
      lexFrom_silent (goes rfl)]
  rw [word]
  apply lexFrom_ends
  · rfl
  · intro c first
    rw [lexStep, if_neg (by simp [(ends c first).2])]
    rfl

theorem itemTokens_cons (v : Json) (rest : List Json) :
    itemTokens (v :: rest) = v.tokens ++ rest.flatMap (fun w => .comma :: w.tokens) := by
  induction rest generalizing v with
  | nil => simp [itemTokens]
  | cons w more ih => rw [itemTokens, ih, List.flatMap_cons, List.cons_append]

section lists

variable (v w : Json) (items more : List Json) (k : String) (m : String × Json)
  (members : List (String × Json)) (rest : List Char)

theorem arrayText_append :
    (array items).text ++ rest = '[' :: (itemsText items ++ ']' :: rest) := by
  simp [text]

theorem objectText_append :
    (object members).text ++ rest = '\x7b' :: (membersText members ++ '\x7d' :: rest) := by
  simp [text]

theorem itemsText_append :
    itemsText (v :: w :: more) ++ rest = v.text ++ ',' :: (itemsText (w :: more) ++ rest) := by
  simp [itemsText]

theorem memberText_append : membersText [(k, v)] ++ rest = stringText k ++ ':' :: (v.text ++ rest) := by
  simp [membersText]

theorem membersText_append : membersText ((k, v) :: m :: members) ++ rest =
    stringText k ++ ':' :: (v.text ++ ',' :: (membersText (m :: members) ++ rest)) := by
  simp [membersText]

end lists

mutual

theorem lexFrom_text (v : Json) {rest : List Char} (ends : Ends rest) :
    lexFrom .between (v.text ++ rest) = (lexFrom .between rest).map (v.tokens ++ ·) := by
  match v with
  | .null => exact lexFrom_null ends
  | .number n => exact lexFrom_intDigits n ends
  | .string s => exact lexFrom_stringText s rest
  | .array items =>
    rw [arrayText_append, lexFrom_punctuation rfl, lexFrom_itemsText items (ends_cons rfl rfl),
      lexFrom_punctuation rfl]
    simp [tokens, Function.comp_def]
  | .object members =>
    rw [objectText_append, lexFrom_punctuation rfl, lexFrom_membersText members (ends_cons rfl rfl),
      lexFrom_punctuation rfl]
    simp [tokens, Function.comp_def]

theorem lexFrom_itemsText (items : List Json) {rest : List Char} (ends : Ends rest) :
    lexFrom .between (itemsText items ++ rest) =
      (lexFrom .between rest).map (itemTokens items ++ ·) := by
  match items with
  | [] => exact Option.map_id'.symm
  | [v] => exact lexFrom_text v ends
  | v :: w :: more =>
    rw [itemsText_append, lexFrom_text v (ends_cons rfl rfl), lexFrom_punctuation rfl,
      lexFrom_itemsText (w :: more) ends]
    simp [itemTokens, Function.comp_def]

theorem lexFrom_membersText (members : List (String × Json)) {rest : List Char} (ends : Ends rest) :
    lexFrom .between (membersText members ++ rest) =
      (lexFrom .between rest).map (memberTokens members ++ ·) := by
  match members with
  | [] => exact Option.map_id'.symm
  | [(k, v)] =>
    rw [memberText_append, lexFrom_stringText, lexFrom_punctuation rfl, lexFrom_text v ends]
    simp [memberTokens, Function.comp_def]
  | (k, v) :: m :: more =>
    rw [membersText_append, lexFrom_stringText, lexFrom_punctuation rfl,
      lexFrom_text v (ends_cons rfl rfl), lexFrom_punctuation rfl, lexFrom_membersText (m :: more) ends]
    simp [memberTokens, Function.comp_def]

end

end SchedTelemetry.Json
