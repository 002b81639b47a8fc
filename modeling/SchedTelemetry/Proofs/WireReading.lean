import SchedTelemetry.Perfetto.Read
import SchedTelemetry.Proofs.Utf8

set_option autoImplicit false

namespace SchedTelemetry.Perfetto

theorem varint_small {n : Nat} (small : n < 128) : varint n = [UInt8.ofNat n] := by
  rw [varint, dif_pos small]

theorem varint_large {n : Nat} (large : 128 ≤ n) :
    varint n = UInt8.ofNat (128 + n % 128) :: varint (n / 128) := by
  rw [varint, dif_neg (Nat.not_lt.mpr large)]

theorem readVarint_varint (n : Nat) (rest : List UInt8) :
    readVarint (varint n ++ rest) = some (n, rest) := by
  have octet {k : Nat} (bound : k < 256) : (UInt8.ofNat k).toNat = k := UInt8.toNat_ofNat_of_lt' bound
  induction n using Nat.strongRecOn with
  | _ n ih =>
    by_cases small : n < 128
    · rw [varint_small small, List.singleton_append, readVarint, octet (by omega), if_pos small]
    · have more : ¬ 128 + n % 128 < 128 := by omega
      have whole : 128 + n % 128 - 128 + 128 * (n / 128) = n := by omega
      rw [varint_large (by omega), List.cons_append, readVarint, octet (by omega), if_neg more,
        ih (n / 128) (by omega)]
      simp only [Option.map_some, whole]

theorem readOctets_append (payload rest : List UInt8) :
    readOctets payload.length (payload ++ rest) = some (payload, rest) := by
  simp [readOctets]

namespace Field

theorem readField_octets (number : Nat) (payload rest : List UInt8) :
    readField (varint (number * 8 + 2) ++ varint payload.length ++ payload ++ rest) =
      some (⟨number, .octets payload⟩, rest) := by
  have kind : (number * 8 + 2) % 8 = 2 := by omega
  have place : (number * 8 + 2) / 8 = number := by omega
  simp [readField, readVarint_varint, readOctets_append, kind, place]

theorem readField_encode (f : Field) (rest : List UInt8) :
    readField (f.encode ++ rest) = some (f.asRead, rest) := by
  cases f with
  | uint number n => simp [readField, encode, asRead, readVarint_varint]
  | bytes number payload => exact readField_octets number payload rest
  | message number fields => exact readField_octets number (encodeAll fields) rest

end Field

theorem readFields_of_readField {bytes rest : List UInt8} {f : ReadField}
    (read : readField bytes = some (f, rest)) :
    readFields bytes = (readFields rest).map (f :: ·) := by
  cases bytes with
  | nil => simp [readField, readVarint] at read
  | cons b tail =>
    rw [readFields]
    split
    next failed =>
      rw [read] at failed
      cases failed
    next same =>
      rw [read] at same
      cases same
      rfl

theorem readFields_encodeAll (fields : List Field) :
    readFields (Field.encodeAll fields) = some (fields.map Field.asRead) := by
  induction fields with
  | nil => simp [Field.encodeAll, readFields]
  | cons f rest ih =>
    rw [Field.encodeAll, readFields_of_readField (f.readField_encode _), ih]
    rfl

section lookups

variable (number other n : Nat) (payload : List UInt8) (message : List Field)
  (fields more : List ReadField)

@[simp] theorem varints_nil : varints number [] = [] := rfl

@[simp] theorem payloads_nil : payloads number [] = [] := rfl

@[simp] theorem varints_uint : varints number ((Field.uint other n).asRead :: fields) =
    if other = number then n :: varints number fields else varints number fields := by
  by_cases same : other = number <;>
    simp [varints, Field.asRead, same, ReadField.varint?]

@[simp] theorem payloads_uint :
    payloads number ((Field.uint other n).asRead :: fields) = payloads number fields := by
  by_cases same : other = number <;>
    simp [payloads, Field.asRead, same, ReadField.octets?, List.filterMap_cons]

@[simp] theorem varints_bytes :
    varints number ((Field.bytes other payload).asRead :: fields) = varints number fields := by
  by_cases same : other = number <;>
    simp [varints, Field.asRead, same, ReadField.varint?, List.filterMap_cons]

@[simp] theorem payloads_bytes : payloads number ((Field.bytes other payload).asRead :: fields) =
    if other = number then payload :: payloads number fields else payloads number fields := by
  by_cases same : other = number <;>
    simp [payloads, Field.asRead, same, ReadField.octets?]

@[simp] theorem varints_message :
    varints number ((Field.message other message).asRead :: fields) = varints number fields :=
  varints_bytes number other (Field.encodeAll message) fields

@[simp] theorem payloads_message : payloads number ((Field.message other message).asRead :: fields) =
    if other = number then Field.encodeAll message :: payloads number fields
    else payloads number fields :=
  payloads_bytes number other (Field.encodeAll message) fields

@[simp] theorem varints_append :
    varints number (fields ++ more) = varints number fields ++ varints number more := by
  simp [varints]

@[simp] theorem payloads_append :
    payloads number (fields ++ more) = payloads number fields ++ payloads number more := by
  simp [payloads]

variable {α : Type} (body : α → List Field) (xs : List α)

@[simp] theorem varints_messages :
    varints number (xs.map (fun x => (Field.message other (body x)).asRead)) = [] := by
  induction xs with
  | nil => rfl
  | cons x rest ih => rw [List.map_cons, varints_message, ih]

@[simp] theorem payloads_messages :
    payloads number (xs.map (fun x => (Field.message other (body x)).asRead)) =
      if other = number then xs.map (fun x => Field.encodeAll (body x)) else [] := by
  induction xs with
  | nil => simp
  | cons x rest ih =>
    rw [List.map_cons, payloads_message, ih]
    split <;> rfl

end lookups

theorem signed_toUInt64 (n : Int64) : signed n.toUInt64.toNat = n := by
  simp [signed]

theorem readAnnotation_encode (a : Annotation) :
    readAnnotation (Field.encodeAll a.fields) = some a := by
  obtain ⟨name, value⟩ := a
  unfold readAnnotation
  rw [readFields_encodeAll]
  cases value <;>
    simp [Field.text, Field.int, Annotation.fields, lastText?, lastPayload?, lastVarint?,
      signed_toUInt64]

theorem readDescriptor_encode (d : TrackDescriptor) :
    readDescriptor (Field.encodeAll d.fields) = some d := by
  obtain ⟨uuid, name, isCounter⟩ := d
  rw [readDescriptor, readFields_encodeAll]
  cases isCounter <;>
    simp [TrackDescriptor.fields, Field.text, lastText?, lastPayload?, lastVarint?]

theorem readKind_fields (e : TrackEvent) :
    readKind (e.fields.map Field.asRead) = some e.kind := by
  obtain ⟨track, kind, annotations⟩ := e
  cases kind <;>
    simp [TrackEvent.fields, EventKind.payload, EventKind.code, readKind, Function.comp_def,
      Field.text, Field.int, lastText?, lastPayload?, lastVarint?, signed_toUInt64]

theorem track_fields (e : TrackEvent) :
    lastVarint? 11 (e.fields.map Field.asRead) = some e.track.toNat := by
  obtain ⟨track, kind, annotations⟩ := e
  cases kind <;>
    simp [TrackEvent.fields, EventKind.payload, Function.comp_def, Field.text, Field.int, lastVarint?]

theorem annotations_fields (e : TrackEvent) :
    payloads 4 (e.fields.map Field.asRead) =
      e.annotations.map (fun a => Field.encodeAll a.fields) := by
  obtain ⟨track, kind, annotations⟩ := e
  cases kind <;>
    simp [TrackEvent.fields, EventKind.payload, Function.comp_def, Field.text, Field.int]

theorem readEvent_encode (e : TrackEvent) : readEvent (Field.encodeAll e.fields) = some e := by
  have inside : (e.annotations.map (fun a => Field.encodeAll a.fields)).mapM readAnnotation =
      some e.annotations :=
    mapM_map_of_inverse readAnnotation_encode e.annotations
  rw [readEvent, readFields_encodeAll]
  simp [track_fields, readKind_fields, annotations_fields, inside]

-- What reading finds of a packet: clock 3, the monotonic one, with every event.
def Packet.asRead (p : Packet) : ReadPacket where
  packet := p
  clock? :=
    match p.content with
    | .event .. => some 3
    | _ => none

theorem readPacket_encode (p : Packet) : readPacket p.encode = some p.asRead := by
  obtain ⟨sequence, content⟩ := p
  rw [readPacket, Packet.encode, readFields_encodeAll]
  cases content <;>
    simp [Packet.fields, Content.fields, readContent, Packet.asRead, monotonicClock, lastPayload?,
      lastVarint?, readDescriptor_encode, readEvent_encode]

theorem encodeAll_entries (packets : List Packet) :
    Field.encodeAll (packets.map Packet.entry) = packets.flatMap (fun p => p.entry.encode) := by
  induction packets with
  | nil => rfl
  | cons p rest ih => rw [List.map_cons, Field.encodeAll, ih, List.flatMap_cons]

theorem readTrace_entries (packets : List Packet) :
    readTrace (packets.flatMap (fun p => p.entry.encode)) = some (packets.map Packet.asRead) := by
  have inside : (packets.map Packet.encode).mapM readPacket = some (packets.map Packet.asRead) :=
    mapM_map_of_reads readPacket_encode packets
  have entries : payloads 1 ((packets.map Packet.entry).map Field.asRead) =
      packets.map Packet.encode := by
    rw [List.map_map]
    exact payloads_messages 1 1 Packet.fields packets
  rw [← encodeAll_entries, readTrace, readFields_encodeAll, Option.bind_eq_bind, Option.bind_some,
    entries]
  exact inside

theorem packet_asRead (packets : List Packet) :
    (packets.map Packet.asRead).map ReadPacket.packet = packets := by
  rw [List.map_map]
  exact List.map_id packets

end SchedTelemetry.Perfetto
