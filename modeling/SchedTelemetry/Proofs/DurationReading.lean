import SchedTelemetry.Duration.Read
import SchedTelemetry.Proofs.Numeral

set_option autoImplicit false

namespace SchedTelemetry.Duration

def Alike (kind : CharKind) (cs : List Char) : Prop := ∀ c ∈ cs, CharKind.of c = kind

theorem runs_begin (c : Char) (rest : List Char) :
    ∃ chars more, runs (c :: rest) = ⟨.of c, chars⟩ :: more := by
  simp only [runs]
  split
  · exact ⟨_, _, rfl⟩
  · split
    next same => exact ⟨_, _, by rw [same]⟩
    next => exact ⟨_, _, rfl⟩

theorem runs_append {kind : CharKind} {cs rest : List Char} (some_char : cs ≠ [])
    (alike : Alike kind cs) (parted : ∀ c ∈ rest.head?, CharKind.of c ≠ kind) :
    runs (cs ++ rest) = ⟨kind, cs⟩ :: runs rest := by
  induction cs with
  | nil => exact absurd rfl some_char
  | cons c more ih =>
    have first : CharKind.of c = kind := alike c List.mem_cons_self
    by_cases last : more = []
    · subst last
      cases rest with
      | nil => simp [runs, first]
      | cons d behind =>
        obtain ⟨chars, others, shape⟩ := runs_begin d behind
        have other : CharKind.of d ≠ kind := parted d rfl
        rw [List.singleton_append, runs, shape]
        simp [first, other]
    · have later := ih last (fun d member => alike d (List.mem_cons_of_mem _ member))
      simp [runs, later, first]

theorem runs_alike {kind : CharKind} {cs : List Char} (some_char : cs ≠ []) (alike : Alike kind cs) :
    runs cs = [⟨kind, cs⟩] := by
  have none_behind : ∀ c ∈ ([] : List Char).head?, CharKind.of c ≠ kind := by simp
  simpa [runs] using runs_append some_char alike none_behind

theorem digits_alike (n : Nat) : Alike .digit (Numeral.digits 10 n) := by
  intro c member
  simp [CharKind.of, Numeral.isDigit_of_mem_digits member]

theorem toNat_of_isAlpha {c : Char} (alpha : c.isAlpha = true) : 65 ≤ c.toNat ∧ c.toNat ≤ 122 := by
  have upper : c.isUpper = true → 65 ≤ c.toNat ∧ c.toNat ≤ 90 := fun up => of_decide_eq_true up
  have lower : c.isLower = true → 97 ≤ c.toNat ∧ c.toNat ≤ 122 := by
    intro low
    obtain ⟨least, most⟩ := Bool.and_eq_true_iff.mp low
    exact ⟨of_decide_eq_true least, of_decide_eq_true most⟩
  rcases Bool.or_eq_true_iff.mp alpha with up | low
  · have := upper up
    omega
  · have := lower low
    omega

theorem isBlank_of_letter {c : Char} (letter : CharKind.of c = .letter) : Text.isBlank c = false := by
  simp only [CharKind.of] at letter
  split at letter
  · cases letter
  · split at letter
    next letters =>
      rw [Bool.or_eq_true, beq_iff_eq] at letters
      rcases letters with alpha | rfl
      · have := toNat_of_isAlpha alpha
        simp only [Text.isBlank, Bool.or_eq_false_iff, Bool.and_eq_false_iff, decide_eq_false_iff_not,
          beq_eq_false_iff_ne]
        omega
      · decide
    next =>
      repeat' split at letter
      all_goals cases letter

theorem trimEnd_eq_self {cs : List Char} (visible : ∀ c ∈ cs.getLast?, Text.isBlank c = false) :
    trimEnd cs = cs := by
  have kept : cs.reverse.dropWhile Text.isBlank = cs.reverse := by
    cases shape : cs.reverse with
    | nil => rfl
    | cons c rest =>
      have last : cs.getLast? = some c := by simp [← List.head?_reverse, shape]
      simp [visible c last]
  simp [trimEnd, kept]

theorem read?_amount (n : Nat) {word : List Char} (some_char : word ≠ []) (letters : Alike .letter word)
    {unit : Nat} (known : unit? word = some unit) :
    read? (Numeral.digits 10 n ++ word) = (amount? (Numeral.digits 10 n) unit).map Duration.mk := by
  have visible : ∀ c ∈ (Numeral.digits 10 n ++ word).getLast?, Text.isBlank c = false := by
    intro c last
    rw [List.getLast?_append, List.getLast?_eq_some_getLast some_char, Option.some_or] at last
    exact isBlank_of_letter (letters c (Option.some.inj last ▸ List.getLast_mem some_char))
  have parted : ∀ c ∈ word.head?, CharKind.of c ≠ .digit := by
    intro c first
    simp [letters c (List.mem_of_head? first)]
  have cut : runs (Numeral.digits 10 n ++ word) =
      [⟨.digit, Numeral.digits 10 n⟩, ⟨.letter, word⟩] := by
    rw [runs_append (Numeral.digits_ne_nil 10 n) (digits_alike n) parted, runs_alike some_char letters]
  simp only [read?, trimEnd_eq_self visible, cut, known, terms?, total?, Option.bind_eq_bind,
    Option.bind_some]
  cases amount? (Numeral.digits 10 n) unit <;> simp [combine?]

theorem read?_nanoseconds {d : Duration} (bounded : d.nanoseconds < UInt64.size) :
    read? (Numeral.digits 10 d.nanoseconds ++ ['n', 's']) = some d := by
  have letters : Alike .letter ['n', 's'] := by
    intro c member
    simp only [List.mem_cons, List.not_mem_nil, or_false] at member
    rcases member with rfl | rfl <;> decide
  have known : unit? ['n', 's'] = some 1 := by decide +kernel
  have amount : amount? (Numeral.digits 10 d.nanoseconds) 1 = some d.nanoseconds := by
    simp [amount?, Numeral.value?_digits, bounded?, bounded]
  simp [read?_amount d.nanoseconds (by simp) letters known, amount]

end SchedTelemetry.Duration
