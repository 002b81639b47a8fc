set_option autoImplicit false

namespace SchedTelemetry.LittleEndian

def encode : Nat → Nat → List UInt8
  | 0, _ => []
  | width + 1, n => UInt8.ofNat n :: encode width (n / 256)

def decode : List UInt8 → Nat
  | [] => 0
  | b :: rest => b.toNat + 256 * decode rest

@[simp] theorem length_encode (width n : Nat) : (encode width n).length = width := by
  induction width generalizing n with
  | zero => rfl
  | succ width ih => simp [encode, ih]

def span : Nat → Nat
  | 0 => 1
  | width + 1 => 256 * span width

theorem decode_encode (width n : Nat) : decode (encode width n) = n % span width := by
  induction width generalizing n with
  | zero => simp [encode, decode, span, Nat.mod_one]
  | succ width ih =>
    have low : (UInt8.ofNat n).toNat = n % 256 := UInt8.toNat_ofNat'
    rw [encode, decode, ih, low, span, Nat.mod_mul]

theorem decode_lt_span (bytes : List UInt8) : decode bytes < span bytes.length := by
  induction bytes with
  | nil => decide
  | cons b rest ih =>
    have low := b.toNat_lt
    simp only [decode, List.length_cons, span]
    omega

theorem encode_decode (bytes : List UInt8) : encode bytes.length (decode bytes) = bytes := by
  induction bytes with
  | nil => rfl
  | cons b rest ih =>
    have low := b.toNat_lt
    have head : UInt8.ofNat (b.toNat + 256 * decode rest) = b := by
      apply UInt8.toNat_inj.mp
      rw [UInt8.toNat_ofNat']
      omega
    have tail : (b.toNat + 256 * decode rest) / 256 = decode rest := by omega
    rw [List.length_cons, decode, encode, head, tail, ih]

def ofUInt32 (x : UInt32) : List UInt8 := encode 4 x.toNat
def ofInt32 (x : Int32) : List UInt8 := ofUInt32 x.toUInt32
def ofUInt64 (x : UInt64) : List UInt8 := encode 8 x.toNat

def field (record : List UInt8) (offset width : Nat) : List UInt8 :=
  (record.drop offset).take width

def byteAt (record : List UInt8) (offset : Nat) : UInt8 :=
  UInt8.ofNat (decode (field record offset 1))

def uint32At (record : List UInt8) (offset : Nat) : UInt32 :=
  UInt32.ofNat (decode (field record offset 4))

def int32At (record : List UInt8) (offset : Nat) : Int32 :=
  (uint32At record offset).toInt32

def uint64At (record : List UInt8) (offset : Nat) : UInt64 :=
  UInt64.ofNat (decode (field record offset 8))

end SchedTelemetry.LittleEndian
