import SchedTelemetry.Event.Encode
import SchedTelemetry.Proofs.Utf8

set_option autoImplicit false

namespace SchedTelemetry

namespace LittleEndian

section field

variable {a b : List UInt8} {offset width : Nat}

theorem field_first (fills : a.length = width) : field (a ++ b) 0 width = a := by
  subst fills
  simp [field]

theorem field_past (past : a.length ≤ offset) :
    field (a ++ b) offset width = field b (offset - a.length) width := by
  simp [field, List.drop_append, List.drop_eq_nil_of_le past]

theorem uint64At_past (past : a.length ≤ offset) :
    uint64At (a ++ b) offset = uint64At b (offset - a.length) := by
  simp only [uint64At, field_past past]

theorem uint32At_past (past : a.length ≤ offset) :
    uint32At (a ++ b) offset = uint32At b (offset - a.length) := by
  simp only [uint32At, field_past past]

theorem int32At_past (past : a.length ≤ offset) :
    int32At (a ++ b) offset = int32At b (offset - a.length) := by
  simp only [int32At, uint32At_past past]

theorem byteAt_past (past : a.length ≤ offset) :
    byteAt (a ++ b) offset = byteAt b (offset - a.length) := by
  simp only [byteAt, field_past past]

end field

@[simp] theorem length_ofUInt64 (x : UInt64) : (ofUInt64 x).length = 8 := length_encode 8 _

@[simp] theorem length_ofUInt32 (x : UInt32) : (ofUInt32 x).length = 4 := length_encode 4 _

@[simp] theorem length_ofInt32 (x : Int32) : (ofInt32 x).length = 4 := length_encode 4 _

@[simp] theorem uint64At_ofUInt64 (x : UInt64) (rest : List UInt8) :
    uint64At (ofUInt64 x ++ rest) 0 = x := by
  have within : x.toNat < span 8 := x.toNat_lt
  simp [uint64At, field_first, ofUInt64, decode_encode, Nat.mod_eq_of_lt within]

@[simp] theorem uint32At_ofUInt32 (x : UInt32) (rest : List UInt8) :
    uint32At (ofUInt32 x ++ rest) 0 = x := by
  have within : x.toNat < span 4 := x.toNat_lt
  simp [uint32At, field_first, ofUInt32, decode_encode, Nat.mod_eq_of_lt within]

@[simp] theorem int32At_ofUInt32 (x : UInt32) (rest : List UInt8) :
    int32At (ofUInt32 x ++ rest) 0 = x.toInt32 :=
  congrArg UInt32.toInt32 (uint32At_ofUInt32 x rest)

@[simp] theorem int32At_ofInt32 (x : Int32) (rest : List UInt8) :
    int32At (ofInt32 x ++ rest) 0 = x := by
  simp [ofInt32]

theorem byteAt_first (x : UInt8) (rest : List UInt8) : byteAt ([x] ++ rest) 0 = x := by
  simp [byteAt, field, decode]

theorem int32At_eq_iff {r : List UInt8} {offset : Nat} (room : offset + 4 ≤ r.length) (x : Int32) :
    int32At r offset = x ↔ field r offset 4 = ofInt32 x := by
  have width : (field r offset 4).length = 4 := by
    simp [field]
    omega
  have within : decode (field r offset 4) < span (field r offset 4).length := decode_lt_span _
  rw [width] at within
  have octets := encode_decode (field r offset 4)
  rw [width] at octets
  constructor
  · rintro rfl
    have number : (UInt32.ofNat (decode (field r offset 4))).toNat = decode (field r offset 4) :=
      UInt32.toNat_ofNat_of_lt' within
    simp [int32At, uint32At, ofInt32, ofUInt32, number, octets]
  · intro same
    have first := int32At_ofInt32 x []
    simp only [int32At, uint32At, field_first (length_ofInt32 x)] at first
    simp only [int32At, uint32At, same, first]

end LittleEndian

open LittleEndian

section marks

variable (rest : List UInt8)

@[simp] theorem length_wordOrUnread (x : Option UInt64) : (wordOrUnread x).length = 8 :=
  length_ofUInt64 _

@[simp] theorem length_intOrUnread (x : Option Int32) : (intOrUnread x).length = 4 :=
  length_ofInt32 _

theorem wordOrAbsent_wordOrUnread {x : Option UInt64} (known : x ≠ some unreadWord) :
    wordOrAbsent (uint64At (wordOrUnread x ++ rest) 0) = x := by
  cases x with
  | none => simp [wordOrUnread, wordOrAbsent]
  | some v =>
    have other : v ≠ unreadWord := fun same => known (congrArg some same)
    simp [wordOrUnread, wordOrAbsent, other]

theorem intOrAbsent_intOrUnread {x : Option Int32} (known : x ≠ some (-1)) :
    intOrAbsent (int32At (intOrUnread x ++ rest) 0) = x := by
  cases x with
  | none => simp [intOrUnread, intOrAbsent]
  | some v =>
    have other : v ≠ -1 := fun same => known (congrArg some same)
    simp [intOrUnread, intOrAbsent, other]

end marks

theorem cpuNumber?_of_representable {cpu : UInt32} (representable : RepresentableCpu cpu) :
    cpuNumber? cpu.toInt32 = some cpu := by
  have positive : ¬ cpu.toInt32 < 0 := by
    have value : cpu.toInt32.toInt = cpu.toBitVec.toInt := rfl
    have zero : (0 : Int32).toInt = 0 := rfl
    have below : cpu.toNat < 0x80000000 := UInt32.lt_iff_toNat_lt.mp representable
    rw [Int32.lt_iff_toInt_lt, value, BitVec.toInt_eq_toNat_cond, zero, UInt32.toNat_toBitVec]
    split <;> omega
  simp [cpuNumber?, positive]

theorem PeltClass.ofTag_tag {c : PeltClass} (canonical : c.Canonical) : ofTag c.tag = c := by
  cases c with
  | unknown number =>
    have outside : number ∉ ([0, 1, 2, 3, 4] : List Int32) := canonical
    simp only [List.mem_cons, List.not_mem_nil, or_false, not_or] at outside
    simp [tag, ofTag, outside]
  | _ => rfl

theorem BalancePhase.ofId_id {p : BalancePhase} (canonical : p.Canonical) : ofId p.id = p := by
  cases p with
  | unknown number =>
    have outside : number ∉ ([0, 1, 2, 3, 4, 5, 6] : List Int32) := canonical
    simp only [List.mem_cons, List.not_mem_nil, or_false, not_or] at outside
    simp [id, ofId, outside]
  | _ => rfl

theorem TaskName.ofBytes_bytes (name : TaskName) : ofBytes name.bytes = name := by
  obtain ⟨bytes, length_eq⟩ := name
  simp [ofBytes, width, FixedText.fit, length_eq]

namespace Filler

@[simp] theorem length_gap (f : Filler) (offset width : Nat) : (f.gap offset width).length = width := by
  simp [gap]

@[simp] theorem length_flag (f : Filler) (b : Bool) : (f.flag b).length = 1 := by
  simp [flag]

theorem byteAt_flag (f : Filler) (b : Bool) (rest : List UInt8) :
    (LittleEndian.byteAt (f.flag b ++ rest) 0 != 0) = b := by
  rw [flag, byteAt_first]
  cases b <;> simp [f.truth_ne_zero]

end Filler

namespace DomainSlot

@[simp] theorem length_nameField (slot : DomainSlot) : slot.nameField.length = 8 := by
  cases slot <;> simp [nameField]

end DomainSlot

section levels

theorem readLevel?_of_slot {r : List UInt8} {i : Nat} {slot : DomainSlot}
    (name : LittleEndian.field r (44 + 8 * i) 8 = slot.nameField)
    (interval : uint64At r (72 + 8 * i) = slot.interval)
    (representable : ∀ level, slot.level? = some level → level.Representable) :
    Event.readLevel? r i = slot.level? := by
  cases slot with
  | used level =>
    obtain ⟨no_nul, not_empty, fits⟩ := representable level rfl
    have shown : FixedText.shown (DomainSlot.used level).nameField = Utf8.encode level.name :=
      FixedText.shown_fit no_nul fits
    simp [Event.readLevel?, name, interval, FixedText.text, shown, not_empty, Utf8.decodeLossy_encode,
      DomainSlot.interval, DomainSlot.level?]
  | unused leftover interval =>
    simp [Event.readLevel?, name, FixedText.shown, DomainSlot.nameField, DomainSlot.level?]

end levels

namespace Event

variable (rest : List UInt8)

theorem readRqPelt_write {e : RqPelt} (representable : (Event.rqPelt e).Representable) :
    readRqPelt (writeRqPelt e ++ rest) = .ok e := by
  obtain ⟨cpu, canonical, load, runnable, util, low, high, est⟩ := representable
  simp (disch := simp [*]) [readRqPelt, writeRqPelt, uint64At_past, int32At_past, cpuOrError,
    cpuNumber?_of_representable cpu, PeltClass.ofTag_tag canonical, wordOrAbsent_wordOrUnread,
    Except.map]

theorem readTaskPelt_write (f : Filler) {e : TaskPelt}
    (representable : (Event.taskPelt e).Representable) :
    readTaskPelt (writeTaskPelt f e ++ rest) = e := by
  obtain ⟨⟨load, runnable, util, low, high, est⟩, ewma⟩ := representable
  have name := e.name.length_eq
  simp (disch := simp [*]) [readTaskPelt, writeTaskPelt, uint64At_past, int32At_past, field_past,
    field_first, TaskName.ofBytes_bytes, wordOrAbsent_wordOrUnread, name]

theorem readNrRunning_write {e : NrRunning} (representable : (Event.nrRunning e).Representable) :
    readNrRunning (writeNrRunning e ++ rest) = .ok e := by
  simp (disch := simp) [readNrRunning, writeNrRunning, int32At_past, cpuOrError,
    cpuNumber?_of_representable representable, Except.map]

theorem readSchedSwitch_write (f : Filler) (e : SchedSwitch) :
    readSchedSwitch (writeSchedSwitch f e ++ rest) = e := by
  have name := e.name.length_eq
  simp (disch := simp [*]) [readSchedSwitch, writeSchedSwitch, int32At_past, byteAt_past,
    field_past, field_first, TaskName.ofBytes_bytes, f.byteAt_flag, name]

theorem readFreqIdle_write (f : Filler) {e : FreqIdle}
    (representable : (Event.freqIdle e).Representable) :
    readFreqIdle (writeFreqIdle f e ++ rest) = .ok e := by
  simp (disch := simp) [readFreqIdle, writeFreqIdle, int32At_past, cpuOrError,
    cpuNumber?_of_representable representable, Except.map]

theorem readLoadBalance_write (f : Filler) {slots : List DomainSlot} {e : LoadBalance}
    (hold : DomainSlot.Hold slots e.stats.levels) (representable : (Event.loadBalance e).Representable) :
    readLoadBalance (writeLoadBalance f slots e ++ rest) = e := by
  obtain ⟨three, levels⟩ := hold
  obtain ⟨canonical, overloaded, overutilized, misfit, level_representable⟩ := representable
  match slots, three with
  | [a, b, c], _ =>
    have fits (slot : DomainSlot) (member : slot ∈ [a, b, c]) :
        ∀ level, slot.level? = some level → level.Representable := by
      intro level used
      apply level_representable
      rw [← levels]
      exact List.mem_filterMap.mpr ⟨slot, member, used⟩
    let r := writeLoadBalance f [a, b, c] e ++ rest
    have first : readLevel? r 0 = a.level? := by
      apply readLevel?_of_slot _ _ (fits a (by simp))
      · simp (disch := simp) [r, writeLoadBalance, field_past, field_first]
      · simp (disch := simp) [r, writeLoadBalance, uint64At_past]
    have second : readLevel? r 1 = b.level? := by
      apply readLevel?_of_slot _ _ (fits b (by simp))
      · simp (disch := simp) [r, writeLoadBalance, field_past, field_first]
      · simp (disch := simp) [r, writeLoadBalance, uint64At_past]
    have third : readLevel? r 2 = c.level? := by
      apply readLevel?_of_slot _ _ (fits c (by simp))
      · simp (disch := simp) [r, writeLoadBalance, field_past, field_first]
      · simp (disch := simp) [r, writeLoadBalance, uint64At_past]
    have read : [0, 1, 2].filterMap (readLevel? r) = e.stats.levels := by
      simp only [← levels, List.filterMap_cons, List.filterMap_nil, first, second, third]
    rw [readLoadBalance, read]
    simp (disch := simp [*]) [writeLoadBalance, uint64At_past, int32At_past, byteAt_past, f.byteAt_flag,
      BalancePhase.ofId_id canonical, intOrAbsent_intOrUnread, wordOrAbsent_wordOrUnread]

theorem readIpi_write (e : Ipi) : readIpi (writeIpi e ++ rest) = e := by
  simp (disch := simp) [readIpi, writeIpi, uint64At_past, int32At_past]

theorem length_encode (f : Filler) {slots : List DomainSlot} (three : slots.length = 3) (e : Event) :
    (encode f slots e).length = e.channel.recordSize := by
  match slots, three with
  | [a, b, c], _ =>
    cases e with
    | taskPelt e | schedSwitch e =>
      have name := e.name.length_eq
      simp [encode, writeTaskPelt, writeSchedSwitch, channel, Channel.recordSize, name]
    | _ =>
      simp [encode, writeRqPelt, writeNrRunning, writeFreqIdle, writeLoadBalance, writeIpi, channel,
        Channel.recordSize]

theorem decode_encode (f : Filler) {slots : List DomainSlot} {e : Event}
    (hold : DomainSlot.Hold slots e.domainLevels) (representable : e.Representable) :
    decode e.channel (encode f slots e ++ rest) = .ok e := by
  have long : ¬ (encode f slots e ++ rest).length < e.channel.recordSize := by
    simp [length_encode f hold.1]
  rw [decode, if_neg long]
  cases e with
  | rqPelt e => simp [read, encode, channel, readRqPelt_write rest representable, Except.map]
  | taskPelt e => simp [read, encode, channel, readTaskPelt_write rest f representable]
  | nrRunning e => simp [read, encode, channel, readNrRunning_write rest representable, Except.map]
  | schedSwitch e => simp [read, encode, channel, readSchedSwitch_write]
  | freqIdle e => simp [read, encode, channel, readFreqIdle_write rest f representable, Except.map]
  | loadBalance e => simp [read, encode, channel, readLoadBalance_write rest f hold representable]
  | ipi e => simp [read, encode, channel, readIpi_write]

theorem cpuOrError_eq_error_iff {c : Channel} {cpu : Int32} {err : DecodeError} :
    cpuOrError c cpu = .error err ↔ cpu < 0 ∧ err = .invalidCpu c cpu := by
  by_cases negative : cpu < 0
  · simp [cpuOrError, cpuNumber?, negative, eq_comm]
  · simp [cpuOrError, cpuNumber?, negative]

theorem map_eq_error_iff {α β : Type} {x : Except DecodeError α} {g : α → β} {err : DecodeError} :
    x.map g = .error err ↔ x = .error err := by
  cases x <;> simp [Except.map]

theorem decode_eq_ok {c : Channel} {r : List UInt8} {e : Event} (ok : decode c r = .ok e) :
    c.recordSize ≤ r.length ∧ read c r = .ok e := by
  unfold decode at ok
  split at ok
  · simp at ok
  next long => exact ⟨Nat.not_lt.mp long, ok⟩

theorem cpuOrError_map_eq_ok_iff {α : Type} {c : Channel} {cpu : Int32} {f : UInt32 → α} {a : α} :
    (cpuOrError c cpu).map f = .ok a ↔ ∃ n, cpuNumber? cpu = some n ∧ f n = a := by
  cases number : cpuNumber? cpu <;> simp [cpuOrError, number, Except.map]

theorem map_eq_ok_iff {α β : Type} {x : Except DecodeError α} {f : α → β} {b : β} :
    x.map f = .ok b ↔ ∃ a, x = .ok a ∧ f a = b := by
  cases x <;> simp [Except.map]

theorem read_eq_error_iff {c : Channel} {r : List UInt8} {err : DecodeError} :
    read c r = .error err ↔
      c ∈ [Channel.rqPelt, .nrRunning, .freqIdle] ∧
        int32At r 8 < 0 ∧ err = .invalidCpu c (int32At r 8) := by
  cases c <;>
    simp [read, readRqPelt, readNrRunning, readFreqIdle, map_eq_error_iff, cpuOrError_eq_error_iff]

theorem decode_eq_error_iff {c : Channel} {r : List UInt8} {err : DecodeError} :
    decode c r = .error err ↔
      (r.length < c.recordSize ∧ err = .tooShort c r.length) ∨
        (c.recordSize ≤ r.length ∧ c ∈ [Channel.rqPelt, .nrRunning, .freqIdle] ∧
          ∃ cpu : Int32, LittleEndian.field r 8 4 = ofInt32 cpu ∧ cpu < 0 ∧
            err = .invalidCpu c cpu) := by
  by_cases short : r.length < c.recordSize
  · simp [decode, short, Nat.not_le.mpr short, eq_comm]
  · have long : c.recordSize ≤ r.length := Nat.not_lt.mp short
    have room : 8 + 4 ≤ r.length := by
      have size : 8 + 4 ≤ c.recordSize := by cases c <;> decide
      omega
    simp [decode, short, long, read_eq_error_iff, ← int32At_eq_iff room]

/-- Every event that has a record is read back from it, however the writer fills what no field covers.
The record has the size of its kind, and one is refused for being short or for a negative CPU only. -/
theorem records_read_back_or_refused :
    [Channel.rqPelt, .taskPelt, .nrRunning, .schedSwitch, .freqIdle, .loadBalance, .ipi].map
        Channel.recordSize = [64, 88, 16, 32, 24, 96, 32] ∧
    (∀ (e : Event) (f : Filler) (slots : List DomainSlot) (rest : List UInt8),
      e.Representable → DomainSlot.Hold slots e.domainLevels →
        (encode f slots e).length = e.channel.recordSize ∧
          decode e.channel (encode f slots e ++ rest) = .ok e) ∧
    (∀ (c : Channel) (r : List UInt8) (err : DecodeError),
      decode c r = .error err ↔
        (r.length < c.recordSize ∧ err = .tooShort c r.length) ∨
          (c.recordSize ≤ r.length ∧ c ∈ [Channel.rqPelt, .nrRunning, .freqIdle] ∧
            ∃ cpu : Int32, LittleEndian.field r 8 4 = ofInt32 cpu ∧ cpu < 0 ∧
              err = .invalidCpu c cpu)) :=
  ⟨rfl,
    fun e f _ rest representable hold =>
      ⟨length_encode f hold.1 e, decode_encode rest f hold representable⟩,
    fun _ _ _ => decode_eq_error_iff⟩

theorem middle_level_read_back :
    let f : Filler := ⟨fun i => UInt8.ofNat (i + 1), 7, by decide⟩
    let level : DomainLevel := ⟨"MC", 4⟩
    let e : LoadBalance := ⟨9, .unknown 7, 0, 1, true, none, some 0, none, ⟨-1, [level]⟩⟩
    decode .loadBalance (encode f [.unused [77] 5, .used level, .unused [] 8] (.loadBalance e) ++ [1])
        = .ok (.loadBalance e) ∧
      decode .rqPelt [1, 2, 3] = .error (.tooShort .rqPelt 3) := by
  intro f level e
  obtain ⟨-, read_back, refused⟩ := records_read_back_or_refused
  have representable : (Event.loadBalance e).Representable := by
    have outside : (7 : Int32) ∉ [0, 1, 2, 3, 4, 5, 6] := by decide
    refine ⟨outside, by decide, by decide, by decide, ?_⟩
    intro held member
    obtain rfl := List.mem_singleton.mp member
    exact ⟨by decide, by decide, by decide⟩
  exact ⟨(read_back (.loadBalance e) f _ [1] representable ⟨rfl, rfl⟩).2,
    (refused .rqPelt [1, 2, 3] _).mpr (.inl ⟨by decide, rfl⟩)⟩

end Event

end SchedTelemetry
