import SchedTelemetry.Proofs.Steps
import SchedTelemetry.Proofs.Stopping

set_option autoImplicit false

namespace SchedTelemetry

namespace WriterThread

-- The writer with all records behind it that the thread has got, or that ended it.
def pass : WriterThread → Attempt TraceWriter
  | .running w inHand queue => w.writeAll (inHand ++ queue.flatten)
  | .ended trace => trace

theorem Steps.pass_eq {t t' : WriterThread} (steps : t.Steps t') : t'.pass = t.pass := by
  cases steps with
  | received => simp [pass]
  | wrote done => simp [pass, TraceWriter.writeAll, done, Attempt.andThen, Attempt.done]
  | failed refused => simp [pass, TraceWriter.writeAll, refused, Attempt.andThen]

theorem finish_running (w : TraceWriter) (inHand : List Record) (queue : List Batch) :
    (running w inHand queue).finish = (running w inHand queue).pass.andThen TraceWriter.close := by
  simp only [finish, pass, Session.drain_eq, TraceWriter.writeAll_append, Attempt.andThen_assoc]

theorem Steps.finish_eq {t t' : WriterThread} (steps : t.Steps t') : t'.finish = t.finish := by
  have same := steps.pass_eq
  cases steps with
  | received => rw [finish_running, finish_running, same]
  | wrote => rw [finish_running, finish_running, same]
  | failed refused =>
    rw [finish_running, ← same]
    rfl

theorem pass_enqueued (w : TraceWriter) (inHand : List Record) (queue : List Batch) (b : Batch) :
    (running w inHand (queue ++ [b])).pass =
      (running w inHand queue).pass.andThen (fun v => v.writeAll b) := by
  simp [pass, ← TraceWriter.writeAll_append]

end WriterThread

end SchedTelemetry
