import SchedTelemetry.Processor

set_option autoImplicit false

namespace SchedTelemetry

def Channel.decodes (c : Channel) (raw : List UInt8) : Bool :=
  (Event.decode c raw).isOk

namespace Tally

def of (c : Channel) (raws : List (List UInt8)) : Tally :=
  ⟨raws.countP c.decodes, raws.countP (fun raw => !c.decodes raw)⟩

def plus (t u : Tally) : Tally := ⟨t.decoded + u.decoded, t.malformed + u.malformed⟩

theorem of_total (c : Channel) (raws : List (List UInt8)) : (of c raws).total = raws.length := by
  rw [List.length_eq_countP_add_countP c.decodes, total, of]
  simp

theorem plus_of_nil (t : Tally) (c : Channel) : t.plus (of c []) = t := rfl

theorem zero_plus (t : Tally) : zero.plus t = t := by
  simp [zero, plus]

theorem plus_of_append (t : Tally) (c : Channel) (xs ys : List (List UInt8)) :
    t.plus (of c (xs ++ ys)) = (t.plus (of c xs)).plus (of c ys) := by
  simp [plus, of, Nat.add_assoc]

end Tally

namespace Processor

def emitted (p : Processor) : List (List UInt8) → List Record
  | [] => []
  | raw :: rest => (p.consume raw).2.records ++ (p.consume raw).1.emitted rest

def recordsOf (channel : Channel) (setup : Setup) (raw : List UInt8) : List Record :=
  match Event.decode channel raw with
  | .ok e => e.records setup
  | .error _ => []

theorem handleLoadBalance_fixed (p : Processor) (e : LoadBalance) :
    (p.handleLoadBalance e).1.channel = p.channel ∧ (p.handleLoadBalance e).1.setup = p.setup := by
  simp only [handleLoadBalance]
  split <;> exact ⟨rfl, rfl⟩

theorem handle_fixed (p : Processor) (e : Event) :
    (p.handle e).1.channel = p.channel ∧ (p.handle e).1.setup = p.setup := by
  cases e with
  | loadBalance e => exact handleLoadBalance_fixed p e
  | _ => exact ⟨rfl, rfl⟩

theorem consume_fixed (p : Processor) (raw : List UInt8) :
    (p.consume raw).1.channel = p.channel ∧ (p.consume raw).1.setup = p.setup := by
  simp only [consume]
  split
  next e _ => exact handle_fixed p.countDecoded e
  next => exact ⟨rfl, rfl⟩

@[simp] theorem consume_channel (p : Processor) (raw : List UInt8) :
    (p.consume raw).1.channel = p.channel :=
  (consume_fixed p raw).1

@[simp] theorem consume_setup (p : Processor) (raw : List UInt8) :
    (p.consume raw).1.setup = p.setup :=
  (consume_fixed p raw).2

theorem consume_records (p : Processor) (raw : List UInt8) :
    (p.consume raw).2.records = recordsOf p.channel p.setup raw := by
  simp only [consume, recordsOf]
  cases Event.decode p.channel raw with
  | ok e => rfl
  | error cause => rfl

theorem emitted_eq_flatMap (p : Processor) (raws : List (List UInt8)) :
    p.emitted raws = raws.flatMap (recordsOf p.channel p.setup) := by
  induction raws generalizing p with
  | nil => rfl
  | cons raw rest ih =>
    rw [emitted, ih, consume_records, consume_channel, consume_setup, List.flatMap_cons]

theorem consume_tally (p : Processor) (raw : List UInt8) :
    (p.consume raw).1.tally = p.tally.plus (.of p.channel [raw]) := by
  simp only [consume]
  cases decoded : Event.decode p.channel raw with
  | ok e =>
    have counts : p.channel.decodes raw = true := by
      rw [Channel.decodes, decoded]
      rfl
    have tally : (p.countDecoded.handle e).1.tally = p.countDecoded.tally := by
      cases e with
      | loadBalance e =>
        simp only [handle, note, handleLoadBalance]
        split <;> rfl
      | _ => rfl
    rw [tally]
    simp [countDecoded, Tally.plus, Tally.of, counts]
  | error cause =>
    have counts : p.channel.decodes raw = false := by
      rw [Channel.decodes, decoded]
      rfl
    simp [countMalformed, Tally.plus, Tally.of, counts]

end Processor

end SchedTelemetry
