import SchedTelemetry.Proofs.JsonReading
import SchedTelemetry.Proofs.Utf8
import SchedTelemetry.Proofs.Writing
import SchedTelemetry.Record.Read

set_option autoImplicit false

namespace SchedTelemetry

namespace Json

theorem intWithin?_number {low high n : Int} (above : low ≤ n) (below : n ≤ high) :
    (Json.number n).intWithin? low high = some n :=
  if_pos ⟨above, below⟩

@[simp] theorem uint64?_number (x : UInt64) : (Json.number x.toNat).uint64? = some x := by
  have small := x.toNat_lt
  rw [uint64?, intWithin?_number (by omega) (by simp only [UInt64.size]; omega)]
  simp

@[simp] theorem uint32?_number (x : UInt32) : (Json.number x.toNat).uint32? = some x := by
  have small := x.toNat_lt
  rw [uint32?, intWithin?_number (by omega) (by simp only [UInt32.size]; omega)]
  simp

@[simp] theorem int64?_number (x : Int64) : (Json.number x.toInt).int64? = some x := by
  rw [int64?, intWithin?_number x.minValue_le_toInt x.toInt_le, Option.map_some, Int64.ofInt_toInt]

@[simp] theorem int32?_number (x : Int32) : (Json.number x.toInt).int32? = some x := by
  rw [int32?, intWithin?_number x.minValue_le_toInt x.toInt_le, Option.map_some, Int32.ofInt_toInt]

@[simp] theorem stringOrNull?_name (name : Option String) :
    ((name.map Json.string).getD .null).stringOrNull? = some name := by
  cases name <;> rfl

end Json

@[simp] theorem CpuSignal.ofKey?_key (x : CpuSignal) : ofKey? x.key = some x := by
  cases x <;> decide

@[simp] theorem TaskSignal.ofKey?_key (x : TaskSignal) : ofKey? x.key = some x := by
  cases x <;> decide

@[simp] theorem CodeAddress.ofJson?_toJson (a : CodeAddress) : ofJson? a.toJson = some a := by
  simp [ofJson?, toJson, Json.member?, List.lookup_cons]

theorem DomainLevel.ofJson?_toJson (l : DomainLevel) : ofJson? l.toJson = some l := by
  simp [ofJson?, toJson, Json.member?, List.lookup_cons, Json.string?]

@[simp] theorem DomainStats.ofJson?_toJson (s : DomainStats) : ofJson? s.toJson = some s := by
  have levels : (s.levels.map DomainLevel.toJson).mapM DomainLevel.ofJson? = some s.levels :=
    mapM_map_of_inverse DomainLevel.ofJson?_toJson s.levels
  simp [ofJson?, toJson, Json.member?, List.lookup_cons, Json.items?, levels]

theorem Track.ofJson?_members (track : Track) (ts : UInt64) (value : Int64) :
    ofJson? (Record.toJson ⟨ts, .counter track value⟩) = some track := by
  cases track <;>
    simp [ofJson?, Record.toJson, Observation.members, Observation.tag, members, Json.member?,
      List.lookup_cons, Json.string?]

theorem Observation.ofJson?_toJson (r : Record) : ofJson? r.toJson = some r.observation := by
  obtain ⟨ts, observation⟩ := r
  cases observation with
  | counter track value =>
    have tag : (Record.toJson ⟨ts, .counter track value⟩).member? "record" =
        some (.string "counter") := rfl
    have counted : (Record.toJson ⟨ts, .counter track value⟩).member? "value" =
        some (.number value.toInt) := by
      cases track <;> rfl
    simp [ofJson?, tag, counted, Json.string?, Track.ofJson?_members]
  | balanceEntry | balanceExit | domains | ipi =>
    simp [ofJson?, Record.toJson, members, tag, Json.member?, List.lookup_cons, Json.string?]

theorem Record.ofJson?_toJson (r : Record) : ofJson? r.toJson = some r := by
  have ts : r.toJson.member? "ts" = some (.number r.ts.toNat) := rfl
  simp [ofJson?, ts, Observation.ofJson?_toJson]

theorem Record.jsonText_injective {r r' : Record} (same : r.jsonText = r'.jsonText) : r = r' := by
  have read := Json.read_text r.toJson
  rw [jsonText, jsonText] at same
  rw [same, Json.read_text] at read
  have decoded := r.ofJson?_toJson
  rw [← Option.some.inj read, ofJson?_toJson] at decoded
  exact (Option.some.inj decoded).symm

namespace Json

theorem lexFrom_jsonLead (count : Nat) (rest : List Char) :
    lexFrom .between (TraceWriter.jsonLead count ++ rest) =
      (lexFrom .between rest).map ((if count = 0 then [] else [.comma]) ++ ·) := by
  have newline : lexStep .between '\n' = some ([], .between) := rfl
  have space : lexStep .between ' ' = some ([], .between) := rfl
  have comma : lexStep .between ',' = some ([.comma], .between) := rfl
  simp only [TraceWriter.jsonLead]
  split
  next =>
    simp only [List.cons_append, List.nil_append, lexFrom_silent newline, lexFrom_silent space]
    exact Option.map_id'.symm
  next =>
    simp only [List.cons_append, List.nil_append, lexFrom_silent newline, lexFrom_silent space,
      lexFrom_cons comma]

theorem ends_jsonBody (count : Nat) (records : List Record) {rest : List Char} (ends : Ends rest) :
    Ends (jsonBody (count + 1) records ++ rest) := by
  cases records with
  | nil => exact ends
  | cons r more => exact ends_cons rfl rfl

theorem lexFrom_laterRecords (count : Nat) (records : List Record) {rest : List Char}
    (ends : Ends rest) :
    lexFrom .between (jsonBody (count + 1) records ++ rest) =
      (lexFrom .between rest).map (records.flatMap (fun r => .comma :: r.toJson.tokens) ++ ·) := by
  induction records generalizing count with
  | nil => exact Option.map_id'.symm
  | cons r more ih =>
    rw [jsonBody, List.append_assoc, List.append_assoc, lexFrom_jsonLead,
      if_neg (Nat.succ_ne_zero count), Record.jsonText,
      lexFrom_text r.toJson (ends_jsonBody (count + 1) more ends), ih]
    simp [Function.comp_def]

theorem lexFrom_jsonBody (records : List Record) {rest : List Char} (ends : Ends rest) :
    lexFrom .between (jsonBody 0 records ++ rest) =
      (lexFrom .between rest).map (itemTokens (records.map Record.toJson) ++ ·) := by
  cases records with
  | nil => exact Option.map_id'.symm
  | cons r more =>
    rw [jsonBody, List.append_assoc, List.append_assoc, lexFrom_jsonLead, if_pos rfl,
      Record.jsonText, lexFrom_text r.toJson (ends_jsonBody 0 more ends),
      lexFrom_laterRecords 0 more ends, List.map_cons, itemTokens_cons]
    simp [Function.comp_def, List.flatMap_map]

theorem read_traceText (records : List Record) :
    read (TraceWriter.jsonHead ++ jsonBody 0 records ++ TraceWriter.jsonTail) =
      some (.array (records.map Record.toJson)) := by
  have closed : lexFrom .between TraceWriter.jsonTail = some [.closeArray] := rfl
  have ends : Ends TraceWriter.jsonTail := ends_cons rfl rfl
  have lexed : lex (TraceWriter.jsonHead ++ jsonBody 0 records ++ TraceWriter.jsonTail) =
      some (array (records.map Record.toJson)).tokens := by
    rw [lex, TraceWriter.jsonHead, List.append_assoc, List.singleton_append,
      lexFrom_punctuation rfl, lexFrom_jsonBody records ends, closed]
    rfl
  rw [read, lexed, Option.bind_some, ofTokens_tokens]

end Json

/-- What a writer leaves behind is the text of one array that has just the records written as its items,
and records have the same text only when they are equal. -/
theorem TraceWriter.written_json_reads_back (records : List Record) :
    (∃ w text items,
      ((create .unlimited .json).start.andThen (fun w => w.writeAll records)).andThen close = .done w ∧
        Utf8.decodeChars? w.out.sink.held = some text ∧ Json.read text = some (.array items) ∧
        items.length = records.length ∧ items.map Record.ofJson? = records.map some) ∧
      ∀ r r' : Record, r.jsonText = r'.jsonText → r = r' := by
  obtain ⟨w, written, held⟩ := written_whole .json records
  refine ⟨⟨w, _, _, written, ?_, Json.read_traceText records, ?_, ?_⟩, ?_⟩
  · rw [held, traceBytes, Utf8.decodeChars?_encodeChars]
  · exact List.length_map _
  · rw [List.map_map]
    exact List.map_congr_left (fun r _ => r.ofJson?_toJson)
  · intro r r' same
    exact Record.jsonText_injective same

end SchedTelemetry
