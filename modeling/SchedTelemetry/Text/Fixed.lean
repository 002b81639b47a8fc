import SchedTelemetry.Text.Utf8

set_option autoImplicit false

namespace SchedTelemetry.FixedText

def shown (field : List UInt8) : List UInt8 :=
  field.takeWhile (· != 0)

def text (field : List UInt8) : String :=
  Utf8.decodeLossy (shown field)

def fit (width : Nat) (bytes : List UInt8) : List UInt8 :=
  (bytes ++ List.replicate width 0).take width

@[simp] theorem length_fit (width : Nat) (bytes : List UInt8) : (fit width bytes).length = width := by
  simp [fit]

theorem fit_eq {bytes : List UInt8} {width : Nat} (fits : bytes.length ≤ width) :
    fit width bytes = bytes ++ List.replicate (width - bytes.length) 0 := by
  simp [fit, List.take_append, List.take_of_length_le fits]

theorem shown_fit_eq_take (width : Nat) (bytes : List UInt8) :
    shown (fit width bytes) = (shown bytes).take width := by
  rw [shown, fit, ← List.take_takeWhile, List.takeWhile_append]
  split
  next whole =>
    have same : shown bytes = bytes := (List.takeWhile_prefix _).eq_of_length whole
    rw [same, List.takeWhile_replicate]
    simp
  next => rfl

theorem shown_eq_self {bytes : List UInt8} (no_nul : 0 ∉ bytes) : shown bytes = bytes := by
  have plain : ∀ b ∈ bytes, (b != 0) = true := by
    intro b member
    simpa using fun zero : b = 0 => no_nul (zero ▸ member)
  simpa [shown] using @List.takeWhile_append_of_pos _ _ bytes [] plain

theorem zero_not_mem_shown (field : List UInt8) : 0 ∉ shown field := by
  intro zero
  have plain := List.all_eq_true.mp (List.all_takeWhile (p := (· != 0)) (l := field)) 0 zero
  simp at plain

theorem shown_shown (field : List UInt8) : shown (shown field) = shown field :=
  shown_eq_self (zero_not_mem_shown field)

theorem shown_fit {bytes : List UInt8} {width : Nat} (no_nul : 0 ∉ bytes)
    (fits : bytes.length ≤ width) : shown (fit width bytes) = bytes := by
  rw [shown_fit_eq_take, shown_eq_self no_nul, List.take_of_length_le fits]

end SchedTelemetry.FixedText
