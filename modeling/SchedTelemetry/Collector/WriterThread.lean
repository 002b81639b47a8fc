import SchedTelemetry.Session

set_option autoImplicit false

namespace SchedTelemetry

/-- The thread that writes the trace: its writer, what is left of the batch it has received, and the
batches that wait for it. The first write that fails ends it, and what waits is lost with it. -/
inductive WriterThread where
  | running (writer : TraceWriter) (inHand : List Record) (queue : List Batch)
  | ended (trace : Attempt TraceWriter)

namespace WriterThread

def queueDepth : Nat := 128

inductive Reply where
  | taken (t : WriterThread)
  | full
  | gone

def offer (t : WriterThread) (b : Batch) : Reply :=
  match t with
  | .running w inHand queue =>
    if queue.length < queueDepth then .taken (.running w inHand (queue ++ [b])) else .full
  | .ended _ => .gone

def isFull : WriterThread → Bool
  | .running _ _ queue => queueDepth ≤ queue.length
  | .ended _ => false

def step? : WriterThread → Option WriterThread
  | .running w (r :: inHand) queue =>
    match w.write r with
    | ⟨w, none⟩ => some (.running w inHand queue)
    | failed => some (.ended failed)
  | .running w [] (b :: queue) => some (.running w b queue)
  | .running _ [] [] => none
  | .ended _ => none

def finish : WriterThread → Attempt TraceWriter
  -- No sender is left, so the queue only empties from here on.
  | .running w inHand queue => (w.writeAll inHand).andThen (fun w => Session.drain w queue)
  | .ended trace => trace

def left : WriterThread → Nat
  | .running _ inHand queue => inHand.length + queue.flatten.length + queue.length
  | .ended _ => 0

theorem step?_left {t t' : WriterThread} (stepped : t.step? = some t') : t'.left < t.left := by
  simp only [step?] at stepped
  split at stepped
  next =>
    split at stepped
    next =>
      cases stepped
      simp only [left, List.length_cons]
      omega
    next =>
      cases stepped
      simp only [left, List.length_cons]
      omega
  next =>
    cases stepped
    simp only [left, List.flatten_cons, List.length_append, List.length_cons, List.length_nil]
    omega
  next => cases stepped
  next => cases stepped

theorem step?_of_isFull {t : WriterThread} (full : t.isFull = true) : t.step? ≠ none := by
  cases t with
  | running w inHand queue =>
    cases inHand with
    | cons r rest =>
      simp only [step?]
      split <;> simp
    | nil =>
      cases queue with
      | cons b rest => simp [step?]
      | nil => simp [isFull, queueDepth] at full
  | ended trace => cases full

end WriterThread

end SchedTelemetry
