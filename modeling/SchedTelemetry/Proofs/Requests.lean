import SchedTelemetry.Proofs.Processing

set_option autoImplicit false

namespace SchedTelemetry.Processor

namespace Request

def raw? : Request → Option (List UInt8)
  | .consume raw => some raw
  | .finish => none

def emits (c : Channel) (setup : Setup) : Request → List Record
  | .consume raw => recordsOf c setup raw
  | .finish => []

end Request

def consumed (requests : List Request) : List (List UInt8) :=
  requests.filterMap Request.raw?

def after (p : Processor) (requests : List Request) : Processor :=
  requests.foldl (fun p request => (p.serve request).1) p

def replies (p : Processor) : List Request → List Reply
  | [] => []
  | request :: rest => (p.serve request).2 :: (p.serve request).1.replies rest

theorem serve_fixed (p : Processor) (request : Request) :
    (p.serve request).1.channel = p.channel ∧ (p.serve request).1.setup = p.setup := by
  cases request with
  | consume raw => exact p.consume_fixed raw
  | finish => exact ⟨rfl, rfl⟩

theorem serve_records (p : Processor) (request : Request) :
    (p.serve request).2.output.records = request.emits p.channel p.setup := by
  cases request with
  | consume raw => exact p.consume_records raw
  | finish => rfl

theorem serve_tally (p : Processor) (request : Request) :
    (p.serve request).1.tally = p.tally.plus (.of p.channel (consumed [request])) := by
  cases request with
  | consume raw => exact p.consume_tally raw
  | finish => rfl

theorem after_fixed (p : Processor) (requests : List Request) :
    (p.after requests).channel = p.channel ∧ (p.after requests).setup = p.setup := by
  induction requests generalizing p with
  | nil => exact ⟨rfl, rfl⟩
  | cons request rest ih =>
    obtain ⟨channel, setup⟩ := p.serve_fixed request
    obtain ⟨later_channel, later_setup⟩ := ih (p.serve request).1
    exact ⟨later_channel.trans channel, later_setup.trans setup⟩

theorem after_tally (p : Processor) (requests : List Request) :
    (p.after requests).tally = p.tally.plus (.of p.channel (consumed requests)) := by
  induction requests generalizing p with
  | nil => rfl
  | cons request rest ih =>
    have split : consumed (request :: rest) = consumed [request] ++ consumed rest :=
      List.filterMap_append (l := [request])
    have later := ih (p.serve request).1
    rw [serve_tally, (p.serve_fixed request).1] at later
    rw [split, Tally.plus_of_append]
    exact later

theorem replies_records (p : Processor) (requests : List Request) :
    (p.replies requests).map (·.output.records) =
      requests.map (Request.emits p.channel p.setup) := by
  induction requests generalizing p with
  | nil => rfl
  | cons request rest ih =>
    simp [replies, ih, serve_records, p.serve_fixed request]

theorem flatMap_emits (c : Channel) (setup : Setup) (requests : List Request) :
    requests.flatMap (Request.emits c setup) = (consumed requests).flatMap (recordsOf c setup) := by
  induction requests with
  | nil => rfl
  | cons request rest ih =>
    cases request <;> simp [consumed, List.filterMap_cons, Request.emits, Request.raw?, ih]

theorem recordsOf_undecodable {c : Channel} {raw : List UInt8} (bad : c.decodes raw = false)
    (setup : Setup) : recordsOf c setup raw = [] := by
  simp only [recordsOf]
  cases decoded : Event.decode c raw with
  | ok e => simp [Channel.decodes, decoded, Except.isOk, Except.toBool] at bad
  | error cause => rfl

theorem flatMap_recordsOf (c : Channel) (setup : Setup) (raws : List (List UInt8)) :
    raws.flatMap (recordsOf c setup) = (raws.filter c.decodes).flatMap (recordsOf c setup) := by
  induction raws with
  | nil => rfl
  | cons raw rest ih =>
    cases good : c.decodes raw with
    | true => simp [good, ih]
    | false => simp [good, ih, recordsOf_undecodable good]

theorem consume_undecodable {p : Processor} {raw : List UInt8}
    (bad : p.channel.decodes raw = false) : (p.consume raw).1 = p.countMalformed := by
  simp only [consume]
  cases decoded : Event.decode p.channel raw with
  | ok e => simp [Channel.decodes, decoded, Except.isOk, Except.toBool] at bad
  | error cause => rfl

theorem after_finishes (p : Processor) (times : Nat) :
    p.after (List.replicate times .finish) = p := by
  induction times with
  | zero => rfl
  | succ times ih => exact ih

theorem replies_finishes (p : Processor) (times : Nat) :
    p.replies (List.replicate times .finish) =
      List.replicate times ⟨⟨[], p.closingNotices⟩, some p.tally⟩ := by
  induction times with
  | zero => rfl
  | succ times ih => simp [List.replicate_succ, replies, serve, ih]

/-- After any requests, all that was emitted is what fresh processors give for the raw records one by
one. A raw record that does not decode leaves nothing but its count, and a finish nothing at all. -/
theorem requests_served_one_by_one (c : Channel) (setup : Setup) (requests : List Request) :
    let p := (fresh c setup).after requests
    ((fresh c setup).replies requests).flatMap (·.output.records) =
        ((consumed requests).filter c.decodes).flatMap
          (fun raw => ((fresh c setup).consume raw).2.records) ∧
      p.tally =
        ⟨(consumed requests).countP c.decodes, (consumed requests).countP (fun raw => !c.decodes raw)⟩ ∧
      (∀ raw, c.decodes raw = false →
        (p.consume raw).2.records = [] ∧ (p.consume raw).1 = { p with tally := (p.consume raw).1.tally } ∧
        ∀ later, ((p.consume raw).1.replies later).map (·.output.records) =
          (p.replies later).map (·.output.records)) ∧
      ∀ times, p.after (List.replicate times .finish) = p ∧
        ∀ reply ∈ p.replies (List.replicate times .finish),
          reply.tally? = some p.tally ∧ reply.output.records = [] := by
  intro p
  obtain ⟨channel, same_setup⟩ := (fresh c setup).after_fixed requests
  refine ⟨?_, ?_, ?_, ?_⟩
  · have alone : (fun raw => ((fresh c setup).consume raw).2.records) = recordsOf c setup :=
      funext (fun raw => (fresh c setup).consume_records raw)
    rw [alone, ← flatMap_recordsOf, ← flatMap_emits, List.flatMap_def, replies_records,
      ← List.flatMap_def]
    rfl
  · exact ((fresh c setup).after_tally requests).trans (Tally.zero_plus _)
  · intro raw bad
    have skipped : (p.consume raw).1 = p.countMalformed := by
      apply consume_undecodable
      rw [channel]
      exact bad
    refine ⟨?_, ?_, ?_⟩
    · rw [consume_records, channel]
      exact recordsOf_undecodable bad _
    · rw [skipped]
      rfl
    · intro later
      rw [replies_records, replies_records, consume_channel, consume_setup]
  · intro times
    refine ⟨p.after_finishes times, ?_⟩
    intro reply member
    rw [replies_finishes] at member
    obtain rfl := List.eq_of_mem_replicate member
    exact ⟨rfl, rfl⟩

theorem stray_exits_served_one_by_one :
    let exit : List UInt8 := 9 :: List.replicate 95 0
    let p := (fresh .loadBalance ⟨.every, .empty, .empty⟩).after
      [.consume exit, .finish, .consume exit]
    p.tally = ⟨2, 0⟩ ∧ p.after (List.replicate 3 .finish) = p ∧
      Channel.loadBalance.decodes [1, 2] = false ∧ (p.consume [1, 2]).2.records = [] ∧
      (((fresh .loadBalance ⟨.every, .empty, .empty⟩).replies
        [.consume exit, .finish, .consume exit]).flatMap (·.output.records)).length = 8 := by
  intro exit p
  obtain ⟨records, tally, skips, finishes⟩ := requests_served_one_by_one .loadBalance
    ⟨.every, .empty, .empty⟩ [.consume exit, .finish, .consume exit]
  have bad : Channel.loadBalance.decodes [1, 2] = false := by decide +kernel
  refine ⟨tally.trans (by decide +kernel), (finishes 3).1, bad, (skips [1, 2] bad).1, ?_⟩
  rw [records]
  decide +kernel

end SchedTelemetry.Processor
