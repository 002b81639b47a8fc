set_option autoImplicit false

namespace SchedTelemetry.Utf8

def encodeChar (c : Char) : List UInt8 :=
  let n := c.toNat
  if n < 0x80 then [UInt8.ofNat n]
  else if n < 0x800 then
    [UInt8.ofNat (0xC0 + n / 0x40), UInt8.ofNat (0x80 + n % 0x40)]
  else if n < 0x10000 then
    [UInt8.ofNat (0xE0 + n / 0x1000), UInt8.ofNat (0x80 + n / 0x40 % 0x40),
      UInt8.ofNat (0x80 + n % 0x40)]
  else
    [UInt8.ofNat (0xF0 + n / 0x40000), UInt8.ofNat (0x80 + n / 0x1000 % 0x40),
      UInt8.ofNat (0x80 + n / 0x40 % 0x40), UInt8.ofNat (0x80 + n % 0x40)]

def encodeChars (cs : List Char) : List UInt8 :=
  cs.flatMap encodeChar

def encode (s : String) : List UInt8 :=
  encodeChars s.toList

-- The bits read, the octets owed after the next one, and the range the next one has to lie in.
structure Pending where
  bits : Nat
  owed : Nat
  low : UInt8
  high : UInt8
  deriving DecidableEq, Repr

inductive Lead where
  | whole (c : Char)
  | opens (p : Pending)
  | stray

def lead (b : UInt8) : Lead :=
  let n := b.toNat
  if n < 0x80 then .whole (Char.ofNat n)
  else if n < 0xC2 then .stray
  else if n < 0xE0 then .opens ⟨n - 0xC0, 0, 0x80, 0xBF⟩
  -- Narrower ranges keep out overlong forms, surrogates and values above 0x10FFFF.
  else if n = 0xE0 then .opens ⟨0, 1, 0xA0, 0xBF⟩
  else if n = 0xED then .opens ⟨0xD, 1, 0x80, 0x9F⟩
  else if n < 0xF0 then .opens ⟨n - 0xE0, 1, 0x80, 0xBF⟩
  else if n = 0xF0 then .opens ⟨0, 2, 0x90, 0xBF⟩
  else if n < 0xF4 then .opens ⟨n - 0xF0, 2, 0x80, 0xBF⟩
  else if n = 0xF4 then .opens ⟨4, 2, 0x80, 0x8F⟩
  else .stray

-- A character, or nothing for a maximal ill-formed part.
abbrev Part := Option Char

def start (b : UInt8) : List Part × Option Pending :=
  match lead b with
  | .whole c => ([some c], none)
  | .opens p => ([], some p)
  | .stray => ([none], none)

def next : Option Pending → UInt8 → List Part × Option Pending
  | none, b => start b
  | some p, b =>
    if p.low ≤ b ∧ b ≤ p.high then
      let bits := p.bits * 0x40 + (b.toNat - 0x80)
      match p.owed with
      | 0 => ([some (Char.ofNat bits)], none)
      | k + 1 => ([], some ⟨bits, k, 0x80, 0xBF⟩)
    else
      -- The character under way is ill-formed, and the octet begins anew.
      (none :: (start b).1, (start b).2)

def partsFrom : Option Pending → List UInt8 → List Part
  | none, [] => []
  | some _, [] => [none]
  | state, b :: rest => (next state b).1 ++ partsFrom (next state b).2 rest

def parts (bytes : List UInt8) : List Part :=
  partsFrom none bytes

-- The strict reading refuses ill-formed parts, the lossy one shows each of them as one of these.
def replacement : Char := '\uFFFD'

def decodeLossyChars (bytes : List UInt8) : List Char :=
  (parts bytes).map (fun p => p.getD replacement)

def decodeLossy (bytes : List UInt8) : String :=
  String.ofList (decodeLossyChars bytes)

def decodeChars? (bytes : List UInt8) : Option (List Char) :=
  (parts bytes).mapM id

def decode? (bytes : List UInt8) : Option String :=
  (decodeChars? bytes).map String.ofList

end SchedTelemetry.Utf8
