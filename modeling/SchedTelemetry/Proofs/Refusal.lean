import SchedTelemetry.Proofs.Stopping

set_option autoImplicit false

namespace SchedTelemetry

namespace BufferedSink

theorem release_prefix (b : BufferedSink) : b.release.held <+: b.content := by
  have kept := b.flush_adds.content_prefix
  rw [List.append_nil] at kept
  exact (List.prefix_append _ _).trans kept

theorem release_limit (b : BufferedSink) : b.release.limit = b.sink.limit :=
  b.flush_adds.limit

theorem release_within {b : BufferedSink} (within : Sink.Admits b.sink.limit b.sink.held.length) :
    Sink.Admits b.release.limit b.release.held.length :=
  b.flush_adds.within within

end BufferedSink

namespace Session

theorem stop_within {s : Session}
    (within : Sink.Admits s.writer.out.sink.limit s.writer.out.sink.held.length) :
    Sink.Admits s.stop.sink.limit s.stop.sink.held.length := by
  rw [stop_eq]
  exact BufferedSink.release_within (s.written_adds.within within)

theorem stop_limit (s : Session) : s.stop.sink.limit = s.writer.out.sink.limit := by
  rw [stop_eq]
  exact (BufferedSink.release_limit _).trans s.written_limit

section Begun

variable {s : Session} {format : TraceFormat} (begun : s.writer.Begun format)

include begun

theorem stop_prefix : s.stop.sink.held <+: traceBytes format (s.sent.flatMap (·.2)) := by
  have content := s.written_adds.content_prefix
  rw [trace_eq begun] at content
  rw [stop_eq]
  exact (BufferedSink.release_prefix _).trans content

theorem stop_fails (within : Sink.Admits s.writer.out.sink.limit s.writer.out.sink.held.length)
    (tight : ¬ Sink.Admits s.writer.out.sink.limit (traceBytes format (s.sent.flatMap (·.2))).length) :
    ∃ e, s.stop.result = .error e := by
  cases failed : s.written.failure with
  | some e =>
    refine ⟨e, ?_⟩
    simp [stop_eq, failed]
  | none =>
    have held := TraceWriter.writeAll_close_held failed
    have room : Sink.Admits s.written.state.out.sink.limit s.written.state.out.sink.held.length :=
      s.written_adds.within within
    rw [written_limit, written, held, ← written, written_content begun failed] at room
    exact absurd room tight

end Begun

/-- At a sink of `n` bytes a session either writes the very trace it would write without a limit and
counts all records, or it fails and leaves a proper front part of that trace. -/
theorem stop_at_limit (format : TraceFormat) (batchSize n : Nat) :
    ∃ limited unlimited : Session,
      start (.create (.limited n) format) batchSize = .ok limited ∧
      start (.create .unlimited format) batchSize = .ok unlimited ∧
      ∀ sent : List (Nat × Batch),
        let stopped := stop { limited with sent }
        let full := (stop { unlimited with sent }).sink.held
        full = traceBytes format (sent.flatMap (·.2)) ∧
        if full.length ≤ n then
          stopped.result = .ok (sent.flatMap (·.2)).length ∧ stopped.sink.held = full
        else
          (∃ e, stopped.result = .error e) ∧ stopped.sink.held <+: full ∧
            stopped.sink.held ≠ full ∧ stopped.sink.held.length ≤ n := by
  obtain ⟨w, begun, sink, started⟩ := start_fresh (.limited n) rfl format batchSize
  obtain ⟨w', opened, started'⟩ := start_unlimited format batchSize
  refine ⟨_, _, started, started', fun sent => ?_⟩
  let s : Session := ⟨w, max batchSize 1, [], sent⟩
  have full : (stop ⟨w', max batchSize 1, [], sent⟩).sink.held =
      traceBytes format (sent.flatMap (·.2)) := stop_held opened
  simp only [full, true_and]
  have limit : s.writer.out.sink.limit = some n := by
    show w.out.sink.limit = _
    rw [sink, Sink.limited]
  have within : Sink.Admits s.writer.out.sink.limit s.writer.out.sink.held.length := by
    show Sink.Admits w.out.sink.limit w.out.sink.held.length
    rw [sink]
    exact Sink.admits_nothing _
  split
  next room =>
    refine stop_of_room (s := s) begun ?_
    rw [limit]
    exact Sink.admits_some.mpr room
  next tight =>
    have few : s.stop.sink.held.length ≤ n := by
      have held := stop_within within
      rw [stop_limit, limit] at held
      exact Sink.admits_some.mp held
    refine ⟨stop_fails (s := s) begun within ?_, stop_prefix (s := s) begun, ?_, few⟩
    · rw [limit, Sink.admits_some]
      exact tight
    · intro same
      rw [same] at few
      exact tight few

end Session

end SchedTelemetry
