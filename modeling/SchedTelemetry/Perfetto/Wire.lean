import SchedTelemetry.Text.Utf8

set_option autoImplicit false

namespace SchedTelemetry.Perfetto

-- Seven bits an octet, the least significant first, with the high bit set on all but the last.
def varint (n : Nat) : List UInt8 :=
  if _h : n < 128 then [UInt8.ofNat n]
  else UInt8.ofNat (128 + n % 128) :: varint (n / 128)
termination_by n
decreasing_by exact Nat.div_lt_self (by omega) (by omega)

inductive Field where
  | uint (number n : Nat)
  | bytes (number : Nat) (payload : List UInt8)
  | message (number : Nat) (fields : List Field)

namespace Field

def int (number : Nat) (n : Int64) : Field := .uint number n.toUInt64.toNat

def text (number : Nat) (s : String) : Field := .bytes number (Utf8.encode s)

mutual

def encode : Field → List UInt8
  | .uint number n => varint (number * 8) ++ varint n
  | .bytes number payload => varint (number * 8 + 2) ++ varint payload.length ++ payload
  | .message number fields =>
    varint (number * 8 + 2) ++ varint (encodeAll fields).length ++ encodeAll fields

def encodeAll : List Field → List UInt8
  | [] => []
  | f :: rest => f.encode ++ encodeAll rest

end

mutual

def pieces : Field → List (List UInt8)
  | .uint number n => [varint (number * 8), varint n]
  | .bytes number payload => [varint (number * 8 + 2), varint payload.length, payload]
  | .message number fields =>
    varint (number * 8 + 2) :: varint (encodeAll fields).length :: piecesAll fields

def piecesAll : List Field → List (List UInt8)
  | [] => []
  | f :: rest => f.pieces ++ piecesAll rest

end

mutual

theorem flatten_pieces (f : Field) : f.pieces.flatten = f.encode := by
  cases f with
  | uint number n => simp [pieces, encode]
  | bytes number payload => simp [pieces, encode]
  | message number fields => simp [pieces, encode, flatten_piecesAll fields]

theorem flatten_piecesAll (fields : List Field) : (piecesAll fields).flatten = encodeAll fields := by
  cases fields with
  | nil => rfl
  | cons f rest => simp [piecesAll, encodeAll, flatten_pieces f, flatten_piecesAll rest]

end

end Field

def stagingSize : Nat := 8192

/-- Hands pieces on through the staging area, of which some is filled. A piece that finds no room pushes
out what is there, and one larger than the area goes past it. -/
def stage (filled : List UInt8) : List (List UInt8) → List (List UInt8)
  | [] => [filled]
  | piece :: rest =>
    if filled.length + piece.length ≤ stagingSize then stage (filled ++ piece) rest
    else if piece.length ≤ stagingSize then filled :: stage piece rest
    else filled :: piece :: stage [] rest

theorem flatten_stage (filled : List UInt8) (pieces : List (List UInt8)) :
    (stage filled pieces).flatten = filled ++ pieces.flatten := by
  induction pieces generalizing filled with
  | nil => simp [stage]
  | cons piece rest ih =>
    simp only [stage]
    split
    · simp [ih]
    · split <;> simp [ih]

end SchedTelemetry.Perfetto
