set_option autoImplicit false

namespace SchedTelemetry.Numeral

def digitChar (d : Nat) : Char :=
  Char.ofNat (if d < 10 then 48 + d else 87 + d)

def digits (base n : Nat) : List Char :=
  if _h : n < base ∨ base < 2 then [digitChar n]
  else digits base (n / base) ++ [digitChar (n % base)]
termination_by n
decreasing_by exact Nat.div_lt_self (by omega) (by omega)

def digitValue? (base : Nat) (c : Char) : Option Nat :=
  let n := c.toNat
  let value? :=
    if 48 ≤ n ∧ n ≤ 57 then some (n - 48)
    else if 97 ≤ n ∧ n ≤ 122 then some (n - 87)
    else if 65 ≤ n ∧ n ≤ 90 then some (n - 55)
    else none
  value?.filter (· < base)

def valueFrom? (base : Nat) (acc : Nat) : List Char → Option Nat
  | [] => some acc
  | c :: rest => (digitValue? base c).bind (fun d => valueFrom? base (acc * base + d) rest)

-- Either case and any number of leading zeros.
def value? (base : Nat) : List Char → Option Nat
  | [] => none
  | c :: rest => valueFrom? base 0 (c :: rest)

def unsigned? (base : Nat) : List Char → Option Nat
  | '+' :: rest => value? base rest
  | cs => value? base cs

def signed? (base : Nat) : List Char → Option Int
  | '-' :: rest => (value? base rest).map (fun n => -Int.ofNat n)
  | cs => (unsigned? base cs).map Int.ofNat

def intDigits (base : Nat) (n : Int) : List Char :=
  if n < 0 then '-' :: digits base n.natAbs else digits base n.natAbs

def decimal (n : Int) : String :=
  String.ofList (intDigits 10 n)

def count (n : Nat) : String :=
  String.ofList (digits 10 n)

end SchedTelemetry.Numeral
