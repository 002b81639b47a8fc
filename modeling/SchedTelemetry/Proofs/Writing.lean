import Mathlib.Data.List.SplitBy
import SchedTelemetry.Proofs.Buffering
import SchedTelemetry.TraceWriter

set_option autoImplicit false

namespace SchedTelemetry

namespace Json

theorem flatten_contentPieces (cs : List Char) :
    (contentPieces cs).flatten = cs.flatMap escapeChar := by
  rw [contentPieces, ← List.flatMap_def]
  conv_rhs => rw [← List.flatten_splitBy (fun a b => escapeChar a == [a] && escapeChar b == [b]) cs]
  rw [List.flatten_eq_flatMap, List.flatMap_assoc]
  rfl

theorem flatten_stringPieces (s : String) : (stringPieces s).flatten = stringText s := by
  simp [stringPieces, stringText, flatten_contentPieces]

mutual

theorem flatten_pieces : (v : Json) → v.pieces.flatten = v.text
  | .null => rfl
  | .number n => by simp [pieces, text]
  | .string s => by rw [pieces, text, flatten_stringPieces]
  | .array items => by simp [pieces, text, flatten_itemPieces items]
  | .object members => by simp [pieces, text, flatten_memberPieces members]

theorem flatten_itemPieces : (items : List Json) → (itemPieces items).flatten = itemsText items
  | [] => rfl
  | [v] => by rw [itemPieces, itemsText, flatten_pieces v]
  | v :: w :: rest => by
    have more := flatten_itemPieces (w :: rest)
    simp [itemPieces, itemsText, flatten_pieces v, more]

theorem flatten_memberPieces :
    (members : List (String × Json)) → (memberPieces members).flatten = membersText members
  | [] => rfl
  | [(k, v)] => by simp [memberPieces, membersText, flatten_stringPieces, flatten_pieces v]
  | (k, v) :: m :: rest => by
    have more := flatten_memberPieces (m :: rest)
    simp [memberPieces, membersText, flatten_stringPieces, flatten_pieces v, more]

end

end Json

theorem Utf8.encodeChars_append (xs ys : List Char) :
    encodeChars (xs ++ ys) = encodeChars xs ++ encodeChars ys :=
  List.flatMap_append

theorem Utf8.flatten_encodeChars (pieces : List (List Char)) :
    (pieces.map encodeChars).flatten = encodeChars pieces.flatten := by
  rw [encodeChars, List.flatten_eq_flatMap (L := pieces), List.flatMap_assoc, List.flatMap_def]
  rfl

def jsonBody (count : Nat) : List Record → List Char
  | [] => []
  | r :: rest => TraceWriter.jsonLead count ++ r.jsonText ++ jsonBody (count + 1) rest

def packetBytes (packets : List Perfetto.Packet) : List UInt8 :=
  packets.flatMap (fun p => p.entry.encode)

theorem packetBytes_append (ps qs : List Perfetto.Packet) :
    packetBytes (ps ++ qs) = packetBytes ps ++ packetBytes qs :=
  List.flatMap_append

def traceBytes : TraceFormat → List Record → List UInt8
  | .json, records =>
    Utf8.encodeChars (TraceWriter.jsonHead ++ jsonBody 0 records ++ TraceWriter.jsonTail)
  | .perfetto, records => packetBytes (tracePackets records)

def SeriesTable.addAll (t : SeriesTable) (ss : List Series) : SeriesTable :=
  ss.foldl add t

theorem SeriesTable.allPackets_append (t : SeriesTable) (xs ys : List (UInt64 × Mark)) :
    t.allPackets (xs ++ ys) =
      t.allPackets xs ++ (t.addAll (xs.map (·.2.series))).allPackets ys := by
  induction xs generalizing t with
  | nil => rfl
  | cons x rest ih =>
    rw [List.cons_append, allPackets, allPackets, ih, List.append_assoc]
    rfl

namespace Attempt

variable {σ : Type}

theorem andThen_assoc (a : Attempt σ) (f g : σ → Attempt σ) :
    (a.andThen f).andThen g = a.andThen (fun s => (f s).andThen g) := by
  rcases a with ⟨s, _ | e⟩ <;> rfl

theorem andThen_finish (a : Attempt σ) : a.andThen done = a := by
  rcases a with ⟨s, _ | e⟩ <;> rfl

theorem andThen_of_failure {a : Attempt σ} (failed : a.failure ≠ none) (f : σ → Attempt σ) :
    a.andThen f = a := by
  rcases a with ⟨s, _ | e⟩
  · exact absurd rfl failed
  · rfl

theorem andThen_done {a : Attempt σ} {f : σ → Attempt σ} (done : (a.andThen f).failure = none) :
    a.failure = none ∧ a.andThen f = f a.state := by
  rcases a with ⟨s, _ | e⟩
  · exact ⟨rfl, rfl⟩
  · cases done

end Attempt

namespace TraceWriter

def headBytes : TraceFormat → List UInt8
  | .json => Utf8.encodeChars jsonHead
  | .perfetto => packetBytes [⟨sequenceId, .sequenceStart⟩]

def bodyBytes (w : TraceWriter) (records : List Record) : List UInt8 :=
  match w.format with
  | .json => Utf8.encodeChars (jsonBody w.count records)
  | .perfetto => packetBytes (w.series.allPackets (records.flatMap Record.timedMarks))

def tailBytes : TraceFormat → List UInt8
  | .json => Utf8.encodeChars jsonTail
  | .perfetto => []

theorem put_adds (w : TraceWriter) (pieces : List (List UInt8)) :
    w.out.Adds pieces.flatten ((w.put pieces).map out) :=
  w.out.writeAll_adds pieces

theorem putText_adds (w : TraceWriter) (pieces : List (List Char)) :
    w.out.Adds (Utf8.encodeChars pieces.flatten) ((w.putText pieces).map out) := by
  rw [← Utf8.flatten_encodeChars]
  exact w.put_adds _

theorem putPackets_adds (w : TraceWriter) (packets : List Perfetto.Packet) :
    w.out.Adds (packetBytes packets) ((w.putPackets packets).map out) := by
  induction packets generalizing w with
  | nil => exact w.out.adds_nothing
  | cons p rest ih =>
    have first := w.put_adds p.chunks
    rw [p.flatten_chunks] at first
    exact first.andThen out (fun _ => ih _)

theorem putPackets_state (w : TraceWriter) (packets : List Perfetto.Packet) :
    ∃ out, (w.putPackets packets).state = { w with out } := by
  induction packets generalizing w with
  | nil => exact ⟨w.out, rfl⟩
  | cons p rest ih =>
    rw [putPackets]
    have put : (w.put p.chunks).state = { w with out := (w.put p.chunks).state.out } := rfl
    cases failed : (w.put p.chunks).failure with
    | some e =>
      refine ⟨(w.put p.chunks).state.out, ?_⟩
      rw [Attempt.andThen, failed]
      exact put
    | none =>
      obtain ⟨out, state⟩ := ih (w.put p.chunks).state
      refine ⟨out, ?_⟩
      rw [Attempt.andThen, failed, state, put]

theorem putMark_adds (w : TraceWriter) (ts : UInt64) (m : Mark) :
    w.out.Adds (packetBytes (w.series.packets ts m)) ((w.putMark ts m).map out) :=
  putPackets_adds { w with series := w.series.add m.series } _

theorem putMark_state (w : TraceWriter) (ts : UInt64) (m : Mark) :
    ∃ out, (w.putMark ts m).state = { w with out, series := w.series.add m.series } :=
  putPackets_state { w with series := w.series.add m.series } _

theorem putMarks_adds (w : TraceWriter) (ts : UInt64) (marks : List Mark) :
    w.out.Adds (packetBytes (w.series.allPackets (marks.map (fun m => (ts, m)))))
      ((w.putMarks ts marks).map out) := by
  induction marks generalizing w with
  | nil => exact w.out.adds_nothing
  | cons m rest ih =>
    obtain ⟨out', state⟩ := w.putMark_state ts m
    have more := ih (w.putMark ts m).state
    have series : (w.putMark ts m).state.series = w.series.add m.series := by rw [state]
    rw [series] at more
    rw [List.map_cons, SeriesTable.allPackets, packetBytes_append]
    exact (w.putMark_adds ts m).andThen out (fun _ => more)

theorem putMarks_state {w : TraceWriter} {ts : UInt64} {marks : List Mark}
    (done : (w.putMarks ts marks).failure = none) :
    ∃ out, (w.putMarks ts marks).state =
      { w with out, series := w.series.addAll (marks.map (·.series)) } := by
  induction marks generalizing w with
  | nil => exact ⟨w.out, rfl⟩
  | cons m rest ih =>
    obtain ⟨-, next⟩ := Attempt.andThen_done done
    have here : w.putMarks ts (m :: rest) = (w.putMark ts m).state.putMarks ts rest := next
    obtain ⟨out₁, state₁⟩ := w.putMark_state ts m
    rw [here] at done ⊢
    obtain ⟨out₂, state₂⟩ := ih done
    refine ⟨out₂, ?_⟩
    rw [state₂, state₁]
    rfl

theorem write_adds (w : TraceWriter) (r : Record) :
    w.out.Adds (w.bodyBytes [r]) ((w.write r).map out) := by
  have counted (a : Attempt TraceWriter) :
      (a.andThen (fun w => .done w.countOne)).map out = a.map out := by
    rcases a with ⟨s, _ | e⟩ <;> rfl
  rw [write, counted]
  simp only [putRecord, bodyBytes]
  cases w.format with
  | json =>
    have text := w.putText_adds (jsonLead w.count :: r.toJson.pieces)
    rw [List.flatten_cons, Json.flatten_pieces] at text
    simpa [jsonBody, Record.jsonText] using text
  | perfetto => simpa [Record.timedMarks] using w.putMarks_adds r.ts r.observation.marks

def past (w : TraceWriter) (r : Record) : TraceWriter :=
  match w.format with
  | .json => w.countOne
  | .perfetto => { w.countOne with series := w.series.addAll (r.observation.marks.map (·.series)) }

theorem past_format (w : TraceWriter) (r : Record) : (w.past r).format = w.format := by
  simp only [past]
  split <;> rfl

theorem past_count (w : TraceWriter) (r : Record) : (w.past r).count = w.count + 1 := by
  simp only [past]
  split <;> rfl

theorem write_state {w : TraceWriter} {r : Record} (done : (w.write r).failure = none) :
    ∃ out, (w.write r).state = { w.past r with out } := by
  obtain ⟨put, next⟩ := Attempt.andThen_done done
  have counted : w.write r = .done (w.putRecord r).state.countOne := next
  rw [counted]
  simp only [putRecord, past] at *
  cases format : w.format with
  | json => exact ⟨_, rfl⟩
  | perfetto =>
    rw [format] at put
    obtain ⟨out, state⟩ := putMarks_state put
    refine ⟨out, ?_⟩
    simp only [Attempt.done, countOne, state]

theorem bodyBytes_cons (w : TraceWriter) (r : Record) (rest : List Record) :
    w.bodyBytes (r :: rest) = w.bodyBytes [r] ++ (w.past r).bodyBytes rest := by
  simp only [bodyBytes]
  rw [past_format]
  cases format : w.format with
  | json => simp [jsonBody, past_count, Utf8.encodeChars_append]
  | perfetto =>
    have names : r.timedMarks.map (·.2.series) = r.observation.marks.map (·.series) := by
      simp [Record.timedMarks, Function.comp_def]
    have learned : (w.past r).series = w.series.addAll (r.observation.marks.map (·.series)) := by
      simp [past, format]
    simp only [List.flatMap_cons, List.flatMap_nil, List.append_nil]
    rw [learned, SeriesTable.allPackets_append, packetBytes_append, names]

theorem bodyBytes_nil (w : TraceWriter) : w.bodyBytes [] = [] := by
  simp only [bodyBytes]
  cases w.format <;> rfl

theorem writeAll_adds (w : TraceWriter) (records : List Record) :
    w.out.Adds (w.bodyBytes records) ((w.writeAll records).map out) := by
  induction records generalizing w with
  | nil =>
    rw [bodyBytes_nil]
    exact w.out.adds_nothing
  | cons r rest ih =>
    rw [bodyBytes_cons]
    apply (w.write_adds r).andThen out
    intro done
    obtain ⟨out', state⟩ := write_state done
    have same : (w.past r).bodyBytes rest = (w.write r).state.bodyBytes rest := by
      rw [state]
      rfl
    rw [same]
    exact ih _

theorem writeAll_state {w : TraceWriter} {records : List Record}
    (done : (w.writeAll records).failure = none) :
    (w.writeAll records).state.format = w.format ∧
      (w.writeAll records).state.count = w.count + records.length := by
  induction records generalizing w with
  | nil => exact ⟨rfl, rfl⟩
  | cons r rest ih =>
    obtain ⟨written, next⟩ := Attempt.andThen_done done
    have here : w.writeAll (r :: rest) = (w.write r).state.writeAll rest := next
    obtain ⟨out', state⟩ := write_state written
    rw [here] at done ⊢
    obtain ⟨format, count⟩ := ih done
    rw [state] at format count
    constructor
    · rw [state, format]
      exact w.past_format r
    · rw [state, count, List.length_cons]
      simp only [past_count]
      omega

theorem writeAll_append (w : TraceWriter) (xs ys : List Record) :
    w.writeAll (xs ++ ys) = (w.writeAll xs).andThen (·.writeAll ys) := by
  induction xs generalizing w with
  | nil => rfl
  | cons x rest ih =>
    rw [List.cons_append, writeAll, writeAll, Attempt.andThen_assoc]
    congr 1
    funext w'
    exact ih w'

theorem start_adds (w : TraceWriter) :
    w.out.Adds (headBytes w.format) (w.start.map out) := by
  simp only [start, headBytes]
  cases w.format with
  | json => simpa using w.putText_adds [jsonHead]
  | perfetto => exact w.putPackets_adds _

theorem start_state (w : TraceWriter) : ∃ out, w.start.state = { w with out } := by
  simp only [start]
  split
  · exact ⟨_, rfl⟩
  · exact w.putPackets_state _

theorem flush_adds (w : TraceWriter) : w.out.Adds [] (w.flush.map out) :=
  w.out.flush_adds

theorem close_adds (w : TraceWriter) : w.out.Adds (tailBytes w.format) (w.close.map out) := by
  simp only [close, tailBytes]
  cases w.format with
  | json =>
    have text := w.putText_adds [jsonTail]
    rw [List.flatten_singleton] at text
    simpa using text.andThen out (fun _ => flush_adds _)
  | perfetto => exact w.flush_adds

theorem close_count {w : TraceWriter} (done : w.close.failure = none) :
    w.close.state.count = w.count := by
  simp only [close] at done ⊢
  cases format : w.format with
  | json =>
    rw [format] at done
    obtain ⟨-, next⟩ := Attempt.andThen_done done
    simp only [next]
    rfl
  | perfetto => rfl

theorem close_held {w : TraceWriter} (done : w.close.failure = none) :
    w.close.state.out.sink.held = w.close.state.out.content := by
  have flushed {b : BufferedSink} (done : b.flush.failure = none) :
      b.flush.state.sink.held = b.flush.state.content := by
    rw [BufferedSink.content, BufferedSink.flush_pending done, List.append_nil]
  simp only [close] at done ⊢
  cases format : w.format with
  | json =>
    rw [format] at done
    obtain ⟨-, next⟩ := Attempt.andThen_done done
    simp only [next] at done ⊢
    exact flushed done
  | perfetto =>
    rw [format] at done
    exact flushed done

theorem writeAll_close_adds (w : TraceWriter) (records : List Record) :
    w.out.Adds (w.bodyBytes records ++ tailBytes w.format)
      (((w.writeAll records).andThen close).map out) := by
  apply (w.writeAll_adds records).andThen out
  intro done
  rw [← (writeAll_state done).1]
  exact close_adds _

theorem writeAll_close_held {w : TraceWriter} {records : List Record}
    (done : ((w.writeAll records).andThen close).failure = none) :
    ((w.writeAll records).andThen close).state.out.sink.held =
      ((w.writeAll records).andThen close).state.out.content := by
  obtain ⟨-, next⟩ := Attempt.andThen_done done
  rw [next] at done ⊢
  exact close_held done

structure Begun (w : TraceWriter) (format : TraceFormat) : Prop where
  format_eq : w.format = format
  count_eq : w.count = 0
  series_eq : w.series = .empty
  content_eq : w.out.content = headBytes format
  small : w.out.size ≤ BufferedSink.capacity

structure Opened (w : TraceWriter) (format : TraceFormat) : Prop extends w.Begun format where
  never : w.out.sink.neverRefuses

-- The head of a trace does not fill the buffer, so the sink is not asked.
theorem start_unasked (sink : Sink) (format : TraceFormat) :
    (create sink format).start.failure = none ∧
      (create sink format).start.state.out.sink = sink := by
  cases format with
  | json =>
    have small : 0 + [Utf8.encodeChars jsonHead].flatten.length < BufferedSink.capacity := by decide
    exact (BufferedSink.onto sink).writeAll_small _ small
  | perfetto =>
    let p : Perfetto.Packet := ⟨sequenceId, .sequenceStart⟩
    have small : 0 + p.chunks.flatten.length < BufferedSink.capacity := by
      rw [p.flatten_chunks]
      decide +kernel
    have goes : (create sink .perfetto).start = (create sink .perfetto).put p.chunks :=
      Attempt.andThen_finish _
    rw [goes]
    exact (BufferedSink.onto sink).writeAll_small p.chunks small

theorem start_begun {sink : Sink} (fresh : sink.held = []) (format : TraceFormat) :
    (create sink format).start.state.Begun format := by
  have adds := (create sink format).start_adds
  have content := adds.content_eq (start_unasked sink format).1
  have none_before : (create sink format).out.content = [] := by
    show sink.held ++ [] = []
    rw [fresh, List.append_nil]
  rw [none_before, List.nil_append] at content
  obtain ⟨out, state⟩ := (create sink format).start_state
  refine ⟨?_, ?_, ?_, content, adds.bounded (Nat.zero_le _)⟩ <;> rw [state] <;> rfl

theorem start_opened (format : TraceFormat) :
    (create .unlimited format).start.failure = none ∧
      (create .unlimited format).start.state.Opened format := by
  obtain ⟨done, unasked⟩ := start_unasked .unlimited format
  refine ⟨done, start_begun rfl format, ?_⟩
  rw [unasked]
  rfl

theorem Begun.traceBytes_eq {w : TraceWriter} {format : TraceFormat} (begun : w.Begun format)
    (records : List Record) :
    w.out.content ++ w.bodyBytes records ++ tailBytes format = traceBytes format records := by
  rw [begun.content_eq]
  simp only [bodyBytes]
  rw [begun.format_eq, begun.count_eq, begun.series_eq]
  cases format with
  | json =>
    show Utf8.encodeChars jsonHead ++ Utf8.encodeChars (jsonBody 0 records) ++
      Utf8.encodeChars jsonTail = Utf8.encodeChars (jsonHead ++ jsonBody 0 records ++ jsonTail)
    rw [Utf8.encodeChars_append, Utf8.encodeChars_append]
  | perfetto =>
    show packetBytes _ ++ packetBytes _ ++ [] = packetBytes (tracePackets records)
    rw [List.append_nil, ← packetBytes_append]
    rfl

theorem written_whole (format : TraceFormat) (records : List Record) :
    ∃ w, ((create .unlimited format).start.andThen (fun w => w.writeAll records)).andThen close =
        .done w ∧ w.out.sink.held = traceBytes format records := by
  obtain ⟨started, opened⟩ := start_opened format
  have adds := (create .unlimited format).start.state.writeAll_close_adds records
  have done := adds.done opened.never
  have content := adds.content_eq done
  rw [opened.format_eq, ← List.append_assoc, opened.traceBytes_eq] at content
  refine ⟨_, ?_, (writeAll_close_held done).trans content⟩
  rw [Attempt.andThen_assoc, Attempt.andThen, started]
  exact congrArg (Attempt.mk _) done

end TraceWriter

end SchedTelemetry
