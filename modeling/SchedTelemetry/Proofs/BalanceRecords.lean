import SchedTelemetry.Proofs.PeltCounters

set_option autoImplicit false

namespace SchedTelemetry

open LittleEndian

namespace BalanceOctets

section octets

variable (raw : List UInt8)

def phaseId : Int32 := int32At raw 8

def thisCpu : Int32 := int32At raw 12

def lbCpu : Int32 := int32At raw 16

def isEntry : Bool := byteAt raw 20 != 0

def overloaded : Int32 := int32At raw 24

def overutilized : Int32 := int32At raw 28

def phaseLabels : List String :=
  ["_nohz_idle_balance()", "run_rebalance_domains()", "rebalance_domains()", "balance_fair()",
    "pick_next_task_fair()", "newidle_balance()", "load_balance()"]

def label (id : Int32) : String :=
  if id < 0 then "unknown" else phaseLabels.getD id.toNatClampNeg "unknown"

def slotUsed (slot : Nat) : Bool := byteAt raw (44 + 8 * slot) != 0

-- The name and the interval of one slot stand in two tables, under the same number.
def level (slot : Nat) : DomainLevel :=
  ⟨FixedText.text (field raw (44 + 8 * slot) 8), uint64At raw (72 + 8 * slot)⟩

def domains : DomainStats :=
  ⟨int32At raw 40, ([0, 1, 2].filter (slotUsed raw)).map (level raw)⟩

def statsPart : List Observation :=
  if phaseId raw = 2 ∧ isEntry raw then [.domains (domains raw)] else []

def overloadedPart : List Observation :=
  if overloaded raw = -1 then [] else [.counter .overloaded (overloaded raw).toInt64]

def overutilizedPart : List Observation :=
  if overutilized raw = -1 then [] else [.counter .overutilized (overutilized raw).toInt64]

def misfitPart : List Observation :=
  if present raw 32 ∧ 0 ≤ lbCpu raw then
    [.counter (.cpu (lbCpu raw).toUInt32 .misfit) (uint64At raw 32).toInt64]
  else []

def marker : Observation :=
  if isEntry raw then .balanceEntry (thisCpu raw) (lbCpu raw) (label (phaseId raw))
  else .balanceExit (thisCpu raw) (lbCpu raw)

def records : List Record :=
  (statsPart raw ++ overloadedPart raw ++ overutilizedPart raw ++ misfitPart raw ++ [marker raw]).map
    (fun o => ⟨uint64At raw 0, o⟩)

end octets

end BalanceOctets

theorem BalancePhase.label_ofId (id : Int32) : (ofId id).label = BalanceOctets.label id := by
  unfold ofId
  -- The ids of the table one by one, then all the others.
  repeat' split
  all_goals try (subst id; rfl)
  next no_0 no_1 no_2 no_3 no_4 no_5 no_6 =>
    unfold BalanceOctets.label
    split
    · rfl
    next natural =>
      have above : 7 ≤ id.toInt := by
        simp only [← Int32.toInt_inj, Int32.lt_iff_toInt_lt, Int32.reduceToInt]
          at natural no_0 no_1 no_2 no_3 no_4 no_5 no_6
        omega
      have outside : BalanceOctets.phaseLabels.length ≤ id.toNatClampNeg := by
        simp only [BalanceOctets.phaseLabels, List.length_cons, List.length_nil, Int32.toNatClampNeg]
        omega
      rw [List.getD_eq_getElem?_getD, List.getElem?_eq_none outside]
      rfl

theorem BalancePhase.ofId_eq_rebalanceDomains_iff (id : Int32) :
    ofId id = .rebalanceDomains ↔ id = 2 := by
  unfold ofId
  repeat' split
  all_goals simp_all

theorem LittleEndian.shown_field_isEmpty {raw : List UInt8} {offset width : Nat}
    (room : offset + width ≤ raw.length) (wide : 0 < width) :
    (FixedText.shown (field raw offset width)).isEmpty = (byteAt raw offset == 0) := by
  obtain ⟨first, rest, here⟩ : ∃ first rest, raw.drop offset = first :: rest := by
    apply List.exists_cons_of_ne_nil
    simp
    omega
  obtain ⟨width, rfl⟩ := Nat.exists_eq_succ_of_ne_zero (Nat.ne_of_gt wide)
  have byte : byteAt raw offset = first := by simp [byteAt, field, here, decode]
  rw [byte, FixedText.shown, field, here]
  by_cases nul : first = 0 <;> simp [nul]

namespace BalanceOctets

section parts

variable {raw : List UInt8}

theorem readLevel?_eq {slot : Nat} (room : 52 + 8 * slot ≤ raw.length) :
    Event.readLevel? raw slot =
      if slotUsed raw slot then some (level raw slot) else none := by
  have empty := @LittleEndian.shown_field_isEmpty raw (44 + 8 * slot) 8 (by omega) (by decide)
  simp only [Event.readLevel?, empty, slotUsed, level]
  cases used : byteAt raw (44 + 8 * slot) == 0 <;> simp [bne, used]

theorem levels_eq (long : 96 ≤ raw.length) :
    [0, 1, 2].filterMap (Event.readLevel? raw) =
      ([0, 1, 2].filter (slotUsed raw)).map (level raw) := by
  have first := @readLevel?_eq raw 0 (by omega)
  have second := @readLevel?_eq raw 1 (by omega)
  have third := @readLevel?_eq raw 2 (by omega)
  cases used_0 : slotUsed raw 0 <;> cases used_1 : slotUsed raw 1 <;>
    cases used_2 : slotUsed raw 2 <;>
      simp [first, second, third, used_0, used_1, used_2]

theorem statsPart_eq (long : 96 ≤ raw.length) :
    (Event.readLoadBalance raw).statsPart = statsPart raw := by
  simp only [LoadBalance.statsPart, Event.readLoadBalance, BalancePhase.ofId_eq_rebalanceDomains_iff,
    levels_eq long]
  rfl

theorem intOrAbsent_toList {α : Type} (x : Int32) (shown : Int32 → α) :
    ((intOrAbsent x).map shown).toList = if x = -1 then [] else [shown x] := by
  by_cases unread : x = -1 <;> simp [intOrAbsent, unread]

theorem overloadedPart_eq :
    (Event.readLoadBalance raw).overloadedPart = overloadedPart raw :=
  intOrAbsent_toList _ _

theorem overutilizedPart_eq :
    (Event.readLoadBalance raw).overutilizedPart = overutilizedPart raw :=
  intOrAbsent_toList _ _

theorem misfitPart_eq (long : 96 ≤ raw.length) :
    (Event.readLoadBalance raw).misfitPart = misfitPart raw := by
  have load := @wordOrAbsent_uint64At raw 32 (by omega)
  simp only [LoadBalance.misfitPart, Event.readLoadBalance, load, cpuNumber?,
    misfitPart, lbCpu, ← Int32.not_lt]
  by_cases read : present raw 32 = true <;> by_cases invalid : int32At raw 16 < 0 <;>
    simp [read, invalid]

theorem marker_eq : (Event.readLoadBalance raw).marker = marker raw := by
  simp only [LoadBalance.marker, Event.readLoadBalance, BalancePhase.label_ofId]
  rfl

end parts

end BalanceOctets

namespace Processor

section switched_on

variable {raw : List UInt8} (long : 96 ≤ raw.length)

include long

theorem decode_loadBalance :
    Event.decode .loadBalance raw = .ok (.loadBalance (Event.readLoadBalance raw)) :=
  if_neg (Nat.not_lt.mpr long)

open BalanceOctets in
theorem recordsOf_loadBalance {setup : Setup} (on : setup.switches.isOn .loadBalance = true) :
    recordsOf .loadBalance setup raw = BalanceOctets.records raw := by
  simp only [recordsOf, decode_loadBalance long, Event.records, Event.observations,
    LoadBalance.observations, on, if_true, statsPart_eq long, overloadedPart_eq, overutilizedPart_eq,
    misfitPart_eq long, marker_eq]
  rfl

end switched_on

section switched_off

variable {p : Processor} (off : p.setup.switches.isOn .loadBalance = false)

include off

theorem handle_phases_of_off (e : Event) : (p.handle e).1.phases = p.phases := by
  cases e with
  | loadBalance e => simp [handle, note, handleLoadBalance, off]
  | _ => rfl

theorem serve_phases_of_off (request : Request) : (p.serve request).1.phases = p.phases := by
  cases request with
  | finish => rfl
  | consume raw =>
    simp only [serve, consume]
    split
    next e _ => exact handle_phases_of_off (p := p.countDecoded) off e
    next => rfl

theorem after_phases_of_off (requests : List Request) : (p.after requests).phases = p.phases := by
  induction requests generalizing p with
  | nil => rfl
  | cons request rest ih =>
    have same_setup := (p.serve_fixed request).2
    have later := @ih (p.serve request).1 (by rw [same_setup, off])
    exact later.trans (serve_phases_of_off off request)

end switched_off

theorem recordsOf_loadBalance_of_off {setup : Setup}
    (off : setup.switches.isOn .loadBalance = false) (raw : List UInt8) :
    recordsOf .loadBalance setup raw = [] := by
  simp only [recordsOf, Event.decode, Event.read]
  split
  next e decoded =>
    split at decoded
    · cases decoded
    · cases decoded
      simp [Event.records, Event.observations, LoadBalance.observations, off]
  next => rfl

/-- With its switch on, the channel says at any time what the octets of the record in hand say, whether a
phase was entered before or not. With its switch off it says nothing and learns nothing. -/
theorem balance_octets_to_records (setup : Setup) (before : List Request) (raw : List UInt8) :
    let p := (fresh .loadBalance setup).after before
    (setup.switches.isOn .loadBalance = true → 96 ≤ raw.length →
      (p.consume raw).2.records = BalanceOctets.records raw) ∧
    (setup.switches.isOn .loadBalance = false →
      (p.consume raw).2.records = [] ∧ p.phases = .empty ∧ (p.consume raw).1.phases = .empty) := by
  intro p
  obtain ⟨channel, same_setup⟩ := (fresh .loadBalance setup).after_fixed before
  have records : (p.consume raw).2.records = recordsOf .loadBalance setup raw := by
    rw [consume_records, channel, same_setup]
    rfl
  rw [records]
  constructor
  · intro on long
    exact recordsOf_loadBalance long on
  · intro off
    have untouched := after_phases_of_off (p := fresh .loadBalance setup) off
    refine ⟨recordsOf_loadBalance_of_off off raw, untouched before, ?_⟩
    have next := untouched (before ++ [.consume raw])
    rwa [after, List.foldl_append] at next

theorem sparse_balance_octets_shown :
    let on : Setup := ⟨.ofList [.loadBalance], .empty, .empty⟩
    let off : Setup := ⟨.none, .empty, .empty⟩
    let slots : List DomainSlot := [.used ⟨"SMT", 4⟩, .unused [65] 5, .used ⟨"PKG", 6⟩]
    let exit := Event.writeLoadBalance .plain slots
      ⟨258, .unknown 7, 1, -1, false, some 1, none, some 9, ⟨3, []⟩⟩
    let entry := Event.writeLoadBalance .plain slots
      ⟨259, .rebalanceDomains, 1, 2, true, none, some 0, none, ⟨3, []⟩⟩
    (((fresh .loadBalance on).after [.finish]).consume exit).2.records =
        [⟨258, .counter .overloaded 1⟩, ⟨258, .balanceExit 1 (-1)⟩] ∧
      (((fresh .loadBalance on).after [.consume exit]).consume entry).2.records =
        [⟨259, .domains ⟨3, [⟨"SMT", 4⟩, ⟨"PKG", 6⟩]⟩⟩, ⟨259, .counter .overutilized 0⟩,
          ⟨259, .balanceEntry 1 2 "rebalance_domains()"⟩] ∧
      ((fresh .loadBalance off).after [.consume entry]).phases = .empty := by
  intro on off slots exit entry
  have stray := (balance_octets_to_records on [.finish] exit).1 rfl (by decide +kernel)
  have entered := (balance_octets_to_records on [.consume exit] entry).1 rfl (by decide +kernel)
  have silent := (balance_octets_to_records off [.consume entry] exit).2 rfl
  exact ⟨stray.trans (by decide +kernel), entered.trans (by decide +kernel), silent.2.1⟩

end Processor

end SchedTelemetry
