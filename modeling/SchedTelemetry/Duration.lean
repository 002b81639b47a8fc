set_option autoImplicit false

namespace SchedTelemetry

structure Duration where
  nanoseconds : Nat
  deriving DecidableEq, Inhabited, Repr

namespace Duration

def perSecond : Nat := 1000000000

def ofParts (seconds nanoseconds : Nat) : Duration := ⟨seconds * perSecond + nanoseconds⟩

def ofMilliseconds (n : Nat) : Duration := ⟨n * 1000000⟩

def wholeSeconds (d : Duration) : Nat := d.nanoseconds / perSecond

def subsecond (d : Duration) : Nat := d.nanoseconds % perSecond

def add? (a b : Duration) : Option Duration :=
  let sum : Duration := ⟨a.nanoseconds + b.nanoseconds⟩
  if sum.wholeSeconds < UInt64.size then some sum else none

end Duration

end SchedTelemetry
