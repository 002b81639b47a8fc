import SchedTelemetry.Proofs.TrackIdentity
import SchedTelemetry.Proofs.WireReading

set_option autoImplicit false

namespace SchedTelemetry

open Perfetto

section split

variable {α : Type} [DecidableEq α]

-- A name is read back from its end, where the signal stands behind the last space and the pid
-- behind the last dash, so that a task or a domain level may be called anything.
def splitLast? (a : α) : List α → Option (List α × List α)
  | [] => none
  | x :: rest =>
    match splitLast? a rest with
    | some (front, back) => some (x :: front, back)
    | none => if x = a then some ([], rest) else none

def splitFirst? (a : α) : List α → Option (List α × List α)
  | [] => none
  | x :: rest =>
    if x = a then some ([], rest)
    else (splitFirst? a rest).map (fun (front, back) => (x :: front, back))

variable {a : α} {xs ys : List α}

theorem splitLast?_eq_none (free : a ∉ xs) : splitLast? a xs = none := by
  induction xs with
  | nil => rfl
  | cons x rest ih =>
    have ⟨other, later⟩ : a ≠ x ∧ a ∉ rest := by simpa using free
    simp [splitLast?, ih later, other.symm]

theorem splitLast?_append (free : a ∉ ys) : splitLast? a (xs ++ a :: ys) = some (xs, ys) := by
  induction xs with
  | nil => simp [splitLast?, splitLast?_eq_none free]
  | cons x rest ih => simp [splitLast?, ih]

theorem splitFirst?_append (free : a ∉ xs) : splitFirst? a (xs ++ a :: ys) = some (xs, ys) := by
  induction xs with
  | nil => simp [splitFirst?]
  | cons x rest ih =>
    have ⟨other, later⟩ : a ≠ x ∧ a ∉ rest := by simpa using free
    simp [splitFirst?, other.symm, ih later]

end split

def CpuSignal.ofName? (n : String) : Option CpuSignal :=
  all.find? (fun x => x.name == n)

def TaskSignal.ofName? (n : String) : Option TaskSignal :=
  all.find? (fun x => x.name == n)

@[simp] theorem CpuSignal.ofName?_name (x : CpuSignal) : ofName? x.name = some x := by
  cases x <;> decide +kernel

@[simp] theorem TaskSignal.ofName?_name (x : TaskSignal) : ofName? x.name = some x := by
  cases x <;> decide +kernel

def IsSignalWord (word : String) : Prop :=
  ' ' ∉ word.toList ∧ word ∉ ["balance_interval", "load_balance", "ipi"]

instance (word : String) : Decidable (IsSignalWord word) :=
  inferInstanceAs (Decidable (_ ∧ _))

theorem CpuSignal.isSignalWord (x : CpuSignal) : IsSignalWord x.name := by
  cases x <;> decide +kernel

theorem TaskSignal.isSignalWord (x : TaskSignal) : IsSignalWord x.name := by
  cases x <;> decide +kernel

def cpuOfLabel? : List Char → Option Int
  | 'C' :: 'P' :: 'U' :: number => Numeral.signed? 10 number
  | _ => none

@[simp] theorem cpuOfLabel?_cpuLabel (c : Int) : cpuOfLabel? (cpuLabel c).toList = some c := by
  rw [toList_cpuLabel]
  exact Numeral.signed?_intDigits c

namespace Series

def ofSignal? (owner : List Char) (signal : String) : Option Series :=
  match splitLast? '-' owner with
  | some (task, pid) => do
    let pid ← Numeral.value? 10 pid
    let signal ← TaskSignal.ofName? signal
    return .counter (.task (.ofList task) (.ofNat pid) signal)
  | none => do
    let c ← cpuOfLabel? owner
    let signal ← CpuSignal.ofName? signal
    return .counter (.cpu (.ofNat c.toNat) signal)

def ofWords? (owner : List Char) (word : String) : Option Series :=
  if word = "balance_interval" then do
    let (label, level) ← splitFirst? ' ' owner
    let c ← cpuOfLabel? label
    return .balanceInterval (.ofInt c) (.ofList level)
  else if word = "load_balance" then
    (cpuOfLabel? owner).map (fun c => .loadBalance (.ofInt c))
  else if word = "ipi" then
    (cpuOfLabel? owner).map (fun c => .ipi (.ofInt c))
  else ofSignal? owner word

def ofName? (n : String) : Option Series :=
  match splitLast? ' ' n.toList with
  | some (owner, word) => ofWords? owner (.ofList word)
  | none =>
    if n = "overloaded" then some (.counter .overloaded)
    else if n = "overutilized" then some (.counter .overutilized)
    else none

def Unsigned : Series → Prop
  | .counter (.task _ pid _) => 0 ≤ pid
  | _ => True

variable {owner : String}

theorem ofName?_words {word : String} (free : ' ' ∉ word.toList) :
    ofName? (owner ++ " " ++ word) = ofWords? owner.toList word := by
  have parts : (owner ++ " " ++ word).toList = owner.toList ++ ' ' :: word.toList := by
    simp [String.toList_append]
  simp [ofName?, parts, splitLast?_append free]

theorem ofName?_signal {word : String} (signal : IsSignalWord word) :
    ofName? (owner ++ " " ++ word) = ofSignal? owner.toList word := by
  obtain ⟨free, other⟩ := signal
  have ⟨interval, slices, ipis⟩ : word ≠ "balance_interval" ∧ word ≠ "load_balance" ∧ word ≠ "ipi" := by
    simpa using other
  simp [ofName?_words free, ofWords?, interval, slices, ipis]

theorem not_mem_cpuLabel {c : Char} (other : c ∉ "CPU".toList) {n : Int}
    (free : c ∉ Numeral.intDigits 10 n) : c ∉ (cpuLabel n).toList := by
  rw [toList_cpuLabel, List.mem_append, not_or]
  exact ⟨other, free⟩

theorem ofName?_name {s : Series} (unsigned : s.Unsigned) : ofName? s.name = some s := by
  -- What ends a name has no space and, in a pid, no dash, whatever the free text before it has.
  have digit (n : Nat) : '-' ∉ Numeral.digits 10 n := Numeral.not_mem_digits (by decide) n
  match s with
  | .counter (.cpu c signal) =>
    have label : '-' ∉ (cpuLabel c.toNat).toList := not_mem_cpuLabel (by decide) (digit _)
    simp only [name, Track.name, ofName?_signal signal.isSignalWord, ofSignal?, splitLast?_eq_none label]
    simp
  | .counter (.task task pid signal) =>
    have natural : ¬ pid.toInt < 0 := Int.not_lt.mpr (Int32.le_iff_toInt_le.mp unsigned)
    have owner : (task ++ "-" ++ Numeral.decimal pid.toInt).toList =
        task.toList ++ '-' :: Numeral.digits 10 pid.toInt.natAbs := by
      simp [String.toList_append, Numeral.intDigits, natural]
    have number : Int32.ofNat pid.toInt.natAbs = pid := by
      have same : (pid.toInt.natAbs : Int) = pid.toInt := Int.natAbs_of_nonneg (Int.not_lt.mp natural)
      rw [← Int32.ofInt_eq_ofNat, same, Int32.ofInt_toInt]
    simp only [name, Track.name, ofName?_signal signal.isSignalWord, ofSignal?, owner,
      splitLast?_append (digit _)]
    simp [Numeral.value?_digits, number]
  | .counter .overloaded => decide +kernel
  | .counter .overutilized => decide +kernel
  | .balanceInterval c level =>
    have label : ' ' ∉ (cpuLabel c.toInt).toList :=
      not_mem_cpuLabel (by decide) (Numeral.not_mem_intDigits (by decide) (by decide) _)
    have owner : (cpuLabel c.toInt ++ " " ++ level).toList =
        (cpuLabel c.toInt).toList ++ ' ' :: level.toList := by
      simp [String.toList_append]
    have words : (balanceInterval c level).name =
        cpuLabel c.toInt ++ " " ++ level ++ " " ++ "balance_interval" := by
      simp only [name, String.append_assoc]
      rfl
    rw [words, ofName?_words (by decide), owner, ofWords?, if_pos rfl, splitFirst?_append label]
    simp
  | .loadBalance c =>
    have words : (loadBalance c).name = cpuLabel c.toInt ++ " " ++ "load_balance" := by
      simp only [name, String.append_assoc]
      rfl
    rw [words, ofName?_words (by decide), ofWords?, if_neg (by decide), if_pos rfl]
    simp
  | .ipi c =>
    have words : (ipi c).name = cpuLabel c.toInt ++ " " ++ "ipi" := by
      simp only [name, String.append_assoc]
      rfl
    rw [words, ofName?_words (by decide), ofWords?, if_neg (by decide), if_neg (by decide), if_pos rfl]
    simp

theorem name_injective {s s' : Series} (unsigned : s.Unsigned) (unsigned' : s'.Unsigned)
    (same : s.name = s'.name) : s = s' := by
  have read := ofName?_name unsigned
  rw [same, ofName?_name unsigned'] at read
  exact (Option.some.inj read).symm

-- A minus sign would pass for the dash before the pid.
example : (counter (.task "x-" 1 .utilAvg)).name = (counter (.task "x" (-1) .utilAvg)).name := by
  decide +kernel

end Series

theorem nodup_eraseDups (past : List Series) : past.eraseDups.Nodup := by
  induction past using List.reverseRecOn with
  | nil => simp
  | append_singleton past s ih =>
    by_cases seen : s ∈ past
    · simpa [eraseDups_seen seen] using ih
    · have apart : ∀ t ∈ past, t ≠ s := fun t member same => seen (same ▸ member)
      simpa [eraseDups_unseen seen, List.nodup_append, ih] using apart

theorem descriptions_names (past : List Series) :
    (descriptions past).map (·.name) = past.eraseDups.map Series.name := by
  apply List.ext_getElem <;> simp [descriptions, Series.descriptor]

def PidsUnsigned (records : List Record) : Prop :=
  ∀ r ∈ records, ∀ task pid signal, r.track? = some (.task task pid signal) → 0 ≤ pid

theorem PidsUnsigned.series {records : List Record} (pids : PidsUnsigned records) :
    ∀ s ∈ seriesOf records, s.Unsigned := by
  intro s member
  obtain ⟨⟨ts, o⟩, here, marked⟩ := List.mem_flatMap.mp member
  cases o with
  | counter track value =>
    obtain rfl := List.mem_singleton.mp marked
    cases track with
    | task task pid signal => exact pids _ here task pid signal rfl
    | cpu | overloaded | overutilized => trivial
  | domains stats =>
    obtain ⟨level, -, rfl⟩ := List.mem_map.mp marked
    trivial
  | balanceEntry | balanceExit | ipi =>
    obtain rfl := List.mem_singleton.mp marked
    trivial

theorem length_introductions (records : List Record) :
    (introductions (tracePackets records)).length = (seriesOf records).eraseDups.length := by
  rw [introductions_tracePackets, descriptions, List.length_mapIdx]

theorem introductions_names_nodup {records : List Record} (pids : PidsUnsigned records) :
    ((introductions (tracePackets records)).map (·.name)).Nodup := by
  rw [introductions_tracePackets, descriptions_names]
  refine List.Nodup.map_on ?_ (nodup_eraseDups _)
  intro s here s' there same
  exact Series.name_injective (pids.series s (List.mem_eraseDups.mp here))
    (pids.series s' (List.mem_eraseDups.mp there)) same

/-- A trace of tasks without negative pids reads back as packets with one track for each series of the
records, and no two of the tracks are described by the same name. -/
theorem TraceWriter.written_names_distinct (records : List Record) (pids : PidsUnsigned records) :
    ∃ w packets,
      ((create .unlimited .perfetto).start.andThen (fun w => w.writeAll records)).andThen close =
        .done w ∧
      readTrace w.out.sink.held = some packets ∧
      (introductions (packets.map ReadPacket.packet)).length =
        (seriesOf records).eraseDups.length ∧
      ((introductions (packets.map ReadPacket.packet)).map (·.name)).Nodup := by
  obtain ⟨w, written, held⟩ := written_whole .perfetto records
  refine ⟨w, (tracePackets records).map Packet.asRead, written, ?_, ?_⟩
  · rw [held, traceBytes, packetBytes, readTrace_entries]
  · rw [packet_asRead]
    exact ⟨length_introductions records, introductions_names_nodup pids⟩

def lookalikes : List Record :=
  [⟨1, .counter (.cpu 3 .utilAvg) 5⟩, ⟨2, .counter (.task "CPU3 util_avg" 3 .utilAvg) 6⟩,
    ⟨3, .domains ⟨3, [⟨"util_avg", 8⟩, ⟨"x-3 util_avg", 16⟩]⟩⟩, ⟨4, .balanceEntry 3 1 "idle"⟩,
    ⟨5, .counter (.task "CPU3 util_avg balance_interval" 3 .utilAvg) 7⟩]

theorem lookalikes_named_apart :
    PidsUnsigned lookalikes ∧
      ∃ w packets, ((TraceWriter.create .unlimited .perfetto).start.andThen
          (fun w => w.writeAll lookalikes)).andThen TraceWriter.close = .done w ∧
        readTrace w.out.sink.held = some packets ∧
        (introductions (packets.map ReadPacket.packet)).length = 6 ∧
        ((introductions (packets.map ReadPacket.packet)).map (·.name)).Nodup := by
  have pids : PidsUnsigned lookalikes := by
    simp [PidsUnsigned, lookalikes, Record.track?]
  have six : (seriesOf lookalikes).eraseDups.length = 6 := by decide +kernel
  rw [← six]
  exact ⟨pids, TraceWriter.written_names_distinct lookalikes pids⟩

end SchedTelemetry
