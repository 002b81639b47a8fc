import SchedTelemetry.Proofs.Writing
import SchedTelemetry.Session

set_option autoImplicit false

namespace SchedTelemetry

namespace Session

theorem start_fresh (sink : Sink) (fresh : sink.held = []) (format : TraceFormat) (batchSize : Nat) :
    ∃ w : TraceWriter, w.Begun format ∧ w.out.sink = sink ∧
      start (.create sink format) batchSize = .ok ⟨w, max batchSize 1, [], []⟩ := by
  obtain ⟨done, unasked⟩ := TraceWriter.start_unasked sink format
  refine ⟨_, TraceWriter.start_begun fresh format, unasked, ?_⟩
  simp only [start]
  revert done
  rcases (TraceWriter.create sink format).start with ⟨w, _ | e⟩
  · intro _
    rfl
  · intro done
    cases done

theorem start_unlimited (format : TraceFormat) (batchSize : Nat) :
    ∃ w : TraceWriter, w.Opened format ∧
      start (.create .unlimited format) batchSize = .ok ⟨w, max batchSize 1, [], []⟩ := by
  obtain ⟨w, begun, sink, started⟩ := start_fresh .unlimited rfl format batchSize
  refine ⟨w, ⟨begun, ?_⟩, started⟩
  rw [sink]
  rfl

theorem drain_eq (w : TraceWriter) (batches : List Batch) :
    drain w batches = (w.writeAll batches.flatten).andThen TraceWriter.close := by
  induction batches generalizing w with
  | nil => rfl
  | cons b rest ih =>
    rw [drain, List.flatten_cons, TraceWriter.writeAll_append, Attempt.andThen_assoc]
    congr 1
    funext w'
    exact ih w'

def written (s : Session) : Attempt TraceWriter :=
  (s.writer.writeAll (s.sent.flatMap (·.2))).andThen TraceWriter.close

theorem stop_eq (s : Session) :
    s.stop =
      ⟨match s.written.failure with
        | none => .ok s.written.state.count
        | some e => .error e,
        s.written.state.release⟩ := by
  simp only [stop, drain_eq, ← List.flatMap_def]
  rw [← written]
  rcases s.written with ⟨w, _ | e⟩ <;> rfl

theorem written_adds (s : Session) :
    s.writer.out.Adds
      (s.writer.bodyBytes (s.sent.flatMap (·.2)) ++ TraceWriter.tailBytes s.writer.format)
      (s.written.map TraceWriter.out) :=
  s.writer.writeAll_close_adds _

theorem written_limit (s : Session) : s.written.state.out.sink.limit = s.writer.out.sink.limit :=
  s.written_adds.limit

theorem written_count {s : Session} (done : s.written.failure = none) :
    s.written.state.count = s.writer.count + (s.sent.flatMap (·.2)).length := by
  rw [written] at done ⊢
  obtain ⟨written, next⟩ := Attempt.andThen_done done
  rw [next] at done ⊢
  rw [TraceWriter.close_count done, (TraceWriter.writeAll_state written).2]

section Begun

variable {s : Session} {format : TraceFormat} (begun : s.writer.Begun format)

include begun

theorem trace_eq :
    s.writer.out.content ++
        (s.writer.bodyBytes (s.sent.flatMap (·.2)) ++ TraceWriter.tailBytes s.writer.format) =
      traceBytes format (s.sent.flatMap (·.2)) := by
  rw [begun.format_eq, ← List.append_assoc, begun.traceBytes_eq]

theorem written_content (done : s.written.failure = none) :
    s.written.state.out.content = traceBytes format (s.sent.flatMap (·.2)) :=
  (s.written_adds.content_eq done).trans (trace_eq begun)

theorem stop_of_room
    (room : Sink.Admits s.writer.out.sink.limit (traceBytes format (s.sent.flatMap (·.2))).length) :
    s.stop.result = .ok (s.sent.flatMap (·.2)).length ∧
      s.stop.sink.held = traceBytes format (s.sent.flatMap (·.2)) := by
  have done : s.written.failure = none := by
    apply s.written_adds.room
    rwa [← List.length_append, trace_eq begun]
  have content := written_content begun done
  have flushed : s.written.state.out.flush.failure = none := by
    apply (BufferedSink.flush_adds _).room
    rw [content, written_limit]
    exact room
  rw [stop_eq]
  constructor
  · simp [done, written_count done, begun.count_eq]
  · exact (BufferedSink.held_of_flush flushed).trans content

end Begun

section Opened

variable {s : Session} {format : TraceFormat} (opened : s.writer.Opened format)

include opened

theorem stop_held : s.stop.sink.held = traceBytes format (s.sent.flatMap (·.2)) :=
  (stop_of_room opened.toBegun (opened.never.admits _)).2

theorem stop_counts : s.stop.result = .ok (s.sent.flatMap (·.2)).length :=
  (stop_of_room opened.toBegun (opened.never.admits _)).1

end Opened

end Session

end SchedTelemetry
