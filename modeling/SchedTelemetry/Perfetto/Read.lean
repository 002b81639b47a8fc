import SchedTelemetry.Perfetto.Packet

set_option autoImplicit false

namespace SchedTelemetry.Perfetto

inductive ReadValue where
  | varint (n : Nat)
  | octets (payload : List UInt8)
  deriving DecidableEq

structure ReadField where
  number : Nat
  value : ReadValue
  deriving DecidableEq

def Field.asRead : Field → ReadField
  | .uint number n => ⟨number, .varint n⟩
  | .bytes number payload => ⟨number, .octets payload⟩
  | .message number fields => ⟨number, .octets (encodeAll fields)⟩

def readVarint : List UInt8 → Option (Nat × List UInt8)
  | [] => none
  | b :: rest =>
    if b.toNat < 128 then some (b.toNat, rest)
    else (readVarint rest).map (fun (n, rest) => (b.toNat - 128 + 128 * n, rest))

def readOctets (size : Nat) (bytes : List UInt8) : Option (List UInt8 × List UInt8) :=
  if size ≤ bytes.length then some (bytes.take size, bytes.drop size) else none

def readField (bytes : List UInt8) : Option (ReadField × List UInt8) := do
  let (tag, rest) ← readVarint bytes
  -- The low three bits tell the kind of payload: 0 a varint, 2 octets behind their count.
  match tag % 8 with
  | 0 =>
    let (n, rest) ← readVarint rest
    return (⟨tag / 8, .varint n⟩, rest)
  | 2 =>
    let (size, rest) ← readVarint rest
    let (payload, rest) ← readOctets size rest
    return (⟨tag / 8, .octets payload⟩, rest)
  | _ => none

theorem length_readVarint {bytes rest : List UInt8} {n : Nat}
    (h : readVarint bytes = some (n, rest)) : rest.length < bytes.length := by
  induction bytes generalizing n rest with
  | nil => simp [readVarint] at h
  | cons b tail ih =>
    simp only [readVarint] at h
    split at h
    · simp only [Option.some.injEq, Prod.mk.injEq] at h
      obtain ⟨-, rfl⟩ := h
      simp
    · simp only [Option.map_eq_some_iff, Prod.mk.injEq, Prod.exists] at h
      obtain ⟨m, r, hr, -, rfl⟩ := h
      have := ih hr
      simp only [List.length_cons]
      omega

theorem length_readField {bytes rest : List UInt8} {f : ReadField}
    (h : readField bytes = some (f, rest)) : rest.length < bytes.length := by
  simp only [readField, Option.bind_eq_bind, Option.bind_eq_some_iff, Prod.exists] at h
  obtain ⟨tag, r, hr, h⟩ := h
  have shorter := length_readVarint hr
  split at h
  · simp only [Option.bind_eq_some_iff, Prod.exists] at h
    obtain ⟨n, r', hn, h⟩ := h
    cases h
    have := length_readVarint hn
    omega
  · simp only [Option.bind_eq_some_iff, Prod.exists] at h
    obtain ⟨size, r', hn, payload, r'', ho, h⟩ := h
    cases h
    have := length_readVarint hn
    simp only [readOctets] at ho
    split at ho
    · cases ho
      simp only [List.length_drop]
      omega
    · cases ho
  · cases h

def readFields (bytes : List UInt8) : Option (List ReadField) :=
  match bytes with
  | [] => some []
  | b :: tail =>
    match _h : readField (b :: tail) with
    | none => none
    | some (f, rest) => (readFields rest).map (f :: ·)
termination_by bytes.length
decreasing_by exact length_readField _h

def ReadField.varint? (f : ReadField) : Option Nat :=
  match f.value with
  | .varint n => some n
  | .octets _ => none

def ReadField.octets? (f : ReadField) : Option (List UInt8) :=
  match f.value with
  | .varint _ => none
  | .octets payload => some payload

def varints (number : Nat) (fields : List ReadField) : List Nat :=
  (fields.filter (·.number == number)).filterMap ReadField.varint?

def payloads (number : Nat) (fields : List ReadField) : List (List UInt8) :=
  (fields.filter (·.number == number)).filterMap ReadField.octets?

-- The last one counts, except where the format collects what is given more than once.
def lastVarint? (number : Nat) (fields : List ReadField) : Option Nat :=
  (varints number fields).getLast?

def lastPayload? (number : Nat) (fields : List ReadField) : Option (List UInt8) :=
  (payloads number fields).getLast?

def lastText? (number : Nat) (fields : List ReadField) : Option String :=
  (lastPayload? number fields).bind Utf8.decode?

def signed (n : Nat) : Int64 := (UInt64.ofNat n).toInt64

def readAnnotation (bytes : List UInt8) : Option Annotation := do
  let fields ← readFields bytes
  let name ← lastText? 10 fields
  match lastVarint? 4 fields, lastText? 6 fields, lastVarint? 7 fields with
  | some n, none, none => return ⟨name, .int (signed n)⟩
  | none, some s, none => return ⟨name, .text s⟩
  | none, none, some a => return ⟨name, .pointer (UInt64.ofNat a)⟩
  | _, _, _ => none

def readDescriptor (bytes : List UInt8) : Option TrackDescriptor := do
  let fields ← readFields bytes
  let uuid ← lastVarint? 1 fields
  let name ← lastText? 2 fields
  return ⟨UInt64.ofNat uuid, name, (lastPayload? 8 fields).isSome⟩

def readKind (fields : List ReadField) : Option EventKind := do
  match ← lastVarint? 9 fields with
  | 1 => return .sliceBegin (← lastText? 23 fields)
  | 2 => return .sliceEnd
  | 3 => return .instant (← lastText? 23 fields)
  | 4 => return .counter (signed (← lastVarint? 30 fields))
  | _ => none

def readEvent (bytes : List UInt8) : Option TrackEvent := do
  let fields ← readFields bytes
  let track ← lastVarint? 11 fields
  let kind ← readKind fields
  let annotations ← (payloads 4 fields).mapM readAnnotation
  return ⟨UInt64.ofNat track, kind, annotations⟩

def readContent (fields : List ReadField) : Option Content := do
  match lastPayload? 11 fields, lastPayload? 60 fields, lastVarint? 13 fields with
  | some event, none, none =>
    let ts ← lastVarint? 8 fields
    return .event (UInt64.ofNat ts) (← readEvent event)
  | none, some descriptor, none => return .descriptor (← readDescriptor descriptor)
  | none, none, some 1 => return .sequenceStart
  | _, _, _ => none

structure ReadPacket where
  packet : Packet
  clock? : Option Nat
  deriving DecidableEq

def readPacket (bytes : List UInt8) : Option ReadPacket := do
  let fields ← readFields bytes
  let sequence ← lastVarint? 10 fields
  return ⟨⟨UInt32.ofNat sequence, ← readContent fields⟩, lastVarint? 58 fields⟩

def readTrace (bytes : List UInt8) : Option (List ReadPacket) := do
  (payloads 1 (← readFields bytes)).mapM readPacket

end SchedTelemetry.Perfetto
