import SchedTelemetry.Sink

set_option autoImplicit false

namespace SchedTelemetry

variable {σ : Type}

namespace Sink

def neverRefuses (s : Sink) : Prop := s.limit = none

def Admits (limit : Option Nat) (size : Nat) : Prop := ∀ n, limit = some n → size ≤ n

instance (limit : Option Nat) (size : Nat) : Decidable (Admits limit size) :=
  inferInstanceAs (Decidable (∀ n ∈ limit, size ≤ n))

theorem Admits.mono {limit : Option Nat} {size size' : Nat} (room : Admits limit size)
    (le : size' ≤ size) : Admits limit size' :=
  fun n limited => Nat.le_trans le (room n limited)

theorem admits_nothing (limit : Option Nat) : Admits limit 0 :=
  fun n _ => Nat.zero_le n

theorem admits_some {n size : Nat} : Admits (some n) size ↔ size ≤ n := by
  simp [Admits]

theorem neverRefuses.admits {s : Sink} (never : s.neverRefuses) (size : Nat) :
    Admits s.limit size := by
  intro n limited
  rw [never] at limited
  cases limited

theorem write_limit (s : Sink) (bytes : List UInt8) : (s.write bytes).state.limit = s.limit := by
  simp only [write]
  split <;> rfl

theorem write_held (s : Sink) (bytes : List UInt8) :
    (s.write bytes).state.held =
      if (s.write bytes).failure = none then s.held ++ bytes else s.held := by
  simp only [write]
  split <;> rfl

theorem fits_iff (s : Sink) (size : Nat) :
    s.fits size = true ↔ Admits s.limit (s.held.length + size) := by
  simp only [fits, Admits]
  cases s.limit <;> simp

theorem write_done (s : Sink) (bytes : List UInt8)
    (room : Admits s.limit (s.held.length + bytes.length)) :
    (s.write bytes).failure = none := by
  rw [write, if_pos ((s.fits_iff _).mpr room)]
  rfl

theorem write_within (s : Sink) (bytes : List UInt8) (within : Admits s.limit s.held.length) :
    Admits (s.write bytes).state.limit (s.write bytes).state.held.length := by
  simp only [write]
  split
  next fits =>
    show Admits s.limit (s.held ++ bytes).length
    rw [List.length_append]
    exact (s.fits_iff _).mp fits
  next => exact within

end Sink

namespace BufferedSink

def content (b : BufferedSink) : List UInt8 := b.sink.held ++ b.pending

/-- An attempt to add `bytes` to `b`. A front part of them is taken, and all of them unless it fails,
which it does only at a sink that cannot hold them behind the content. -/
structure Adds (b : BufferedSink) (bytes : List UInt8) (a : Attempt BufferedSink) : Prop where
  taken : ∃ front rest, bytes = front ++ rest ∧ a.state.content = b.content ++ front ∧
    (a.failure = none → rest = [])
  limit : a.state.sink.limit = b.sink.limit
  within : Sink.Admits b.sink.limit b.sink.held.length →
    Sink.Admits a.state.sink.limit a.state.sink.held.length
  room : Sink.Admits b.sink.limit (b.content.length + bytes.length) → a.failure = none
  bounded : b.size ≤ capacity → a.state.size ≤ capacity

theorem Adds.content_eq {b : BufferedSink} {bytes : List UInt8} {a : Attempt BufferedSink}
    (adds : b.Adds bytes a) (done : a.failure = none) : a.state.content = b.content ++ bytes := by
  obtain ⟨front, rest, rfl, content, whole⟩ := adds.taken
  rw [content, whole done, List.append_nil]

theorem Adds.content_prefix {b : BufferedSink} {bytes : List UInt8} {a : Attempt BufferedSink}
    (adds : b.Adds bytes a) : a.state.content <+: b.content ++ bytes := by
  obtain ⟨front, rest, rfl, content, -⟩ := adds.taken
  rw [content, ← List.append_assoc]
  exact List.prefix_append _ _

theorem Adds.done {b : BufferedSink} {bytes : List UInt8} {a : Attempt BufferedSink}
    (adds : b.Adds bytes a) (never : b.sink.neverRefuses) : a.failure = none :=
  adds.room (never.admits _)

theorem length_content (b : BufferedSink) : b.content.length = b.sink.held.length + b.size := by
  rw [content, List.length_append, b.size_eq_length_pending]

-- What is taken is held by the sink or waits in the buffer.
theorem Adds.fails {b : BufferedSink} {bytes : List UInt8} {a : Attempt BufferedSink} {n : Nat}
    (adds : b.Adds bytes a) (limited : b.sink.limit = some n) (within : b.sink.held.length ≤ n)
    (small : b.size ≤ capacity) (beyond : n + capacity < b.content.length + bytes.length) :
    a.failure ≠ none := by
  intro done
  have size := congrArg List.length (adds.content_eq done)
  have held := adds.within (limited ▸ Sink.admits_some.mpr within)
  have buffered := adds.bounded small
  rw [adds.limit, limited, Sink.admits_some] at held
  rw [length_content, List.length_append] at size
  omega

theorem adds_nothing (b : BufferedSink) : b.Adds [] (.done b) where
  taken := ⟨[], [], rfl, by simp [Attempt.done], fun _ => rfl⟩
  limit := rfl
  within := id
  room := fun _ => rfl
  bounded := id

theorem Adds.andThen (out : σ → BufferedSink) {b : BufferedSink} {bytes more : List UInt8}
    {a : Attempt σ} {f : σ → Attempt σ} (first : b.Adds bytes (a.map out))
    (second : a.failure = none → (out a.state).Adds more ((f a.state).map out)) :
    b.Adds (bytes ++ more) ((a.andThen f).map out) := by
  cases failed : a.failure with
  | some e =>
    have stays : a.andThen f = a := by simp [Attempt.andThen, failed]
    obtain ⟨front, rest, rfl, content, -⟩ := first.taken
    have fails : (a.map out).failure = some e := failed
    rw [stays]
    refine ⟨⟨front, rest ++ more, List.append_assoc .., content, ?_⟩, first.limit, first.within, ?_,
      first.bounded⟩
    · intro done
      rw [fails] at done
      cases done
    · intro room
      apply first.room
      apply room.mono
      simp only [List.length_append]
      omega
  | none =>
    have goes : a.andThen f = f a.state := by simp [Attempt.andThen, failed]
    have before : (out a.state).content = b.content ++ bytes := first.content_eq failed
    obtain ⟨front, rest, rfl, content, whole⟩ := (second failed).taken
    rw [goes]
    refine ⟨⟨bytes ++ front, rest, by simp, ?_, whole⟩, (second failed).limit.trans first.limit,
      fun within => (second failed).within (first.within within), ?_,
      fun small => (second failed).bounded (first.bounded small)⟩
    · rw [content, before, List.append_assoc]
    · intro room
      apply (second failed).room
      have same : (out a.state).sink.limit = b.sink.limit := first.limit
      rw [same, before]
      apply room.mono
      simp only [List.length_append]
      omega

theorem flush_adds (b : BufferedSink) : b.Adds [] b.flush := by
  simp only [flush]
  split
  · exact b.adds_nothing
  · have limit := b.sink.write_limit b.pending
    have held := b.sink.write_held b.pending
    have within := b.sink.write_within b.pending
    have done := b.sink.write_done b.pending
    revert limit held within done
    rcases b.sink.write b.pending with ⟨sink, _ | e⟩
    · intro limit held within _
      refine ⟨⟨[], [], rfl, ?_, fun _ => rfl⟩, limit, within, fun _ => rfl, fun _ => Nat.zero_le _⟩
      have held' : sink.held = b.sink.held ++ b.pending := held
      simp [Attempt.done, onto, content, pending, held']
    · intro _ _ _ done
      refine ⟨⟨[], [], rfl, by simp, fun _ => rfl⟩, rfl, id, ?_, id⟩
      intro room
      rw [content, List.length_append] at room
      exact absurd (done room) (by simp)

theorem flush_pending {b : BufferedSink} (done : b.flush.failure = none) :
    b.flush.state.pending = [] := by
  simp only [flush] at done ⊢
  split
  next empty =>
    have none_left : b.pending.length = 0 := b.size_eq_length_pending ▸ empty
    exact List.eq_nil_of_length_eq_zero none_left
  next some_left =>
    rw [if_neg some_left] at done
    revert done
    rcases b.sink.write b.pending with ⟨sink, _ | e⟩
    · intro _
      rfl
    · intro done
      cases done

-- Bytes may go past the buffer only when nothing is pending in it.
theorem take_adds (b : BufferedSink) (bytes : List UInt8)
    (clear : b.size + bytes.length ≤ capacity ∨ b.pending = []) : b.Adds bytes (b.take bytes) := by
  have size := b.size_eq_length_pending
  simp only [take]
  split
  next small =>
    refine ⟨⟨bytes, [], by simp, ?_, fun _ => rfl⟩, rfl, id, fun _ => rfl, ?_⟩
    · have sink : (b.keep bytes).sink = b.sink := rfl
      simp [Attempt.done, content, sink, pending_keep]
    · intro _
      show b.size + bytes.length ≤ capacity
      rcases clear with fits | empty
      · exact fits
      · rw [size, empty]
        simp only [List.length_nil]
        omega
  next large =>
    have empty : b.pending = [] := by
      rcases clear with fits | empty
      · exact List.eq_nil_of_length_eq_zero (by omega)
      · exact empty
    have backlog : b.backlog.reverse = [] := empty
    have limit := b.sink.write_limit bytes
    have held := b.sink.write_held bytes
    have within := b.sink.write_within bytes
    have done := b.sink.write_done bytes
    revert limit held within done
    rcases b.sink.write bytes with ⟨sink, _ | e⟩
    · intro limit held within _
      have held' : sink.held = b.sink.held ++ bytes := held
      refine ⟨⟨bytes, [], by simp, ?_, fun _ => rfl⟩, limit, within, fun _ => rfl, id⟩
      simp [Attempt.map, content, pending, backlog, held']
    · intro limit held within done
      have held' : sink.held = b.sink.held := held
      refine ⟨⟨[], bytes, rfl, ?_, ?_⟩, limit, within, ?_, id⟩
      · simp [Attempt.map, content, pending, held']
      · intro failed
        cases failed
      · intro room
        rw [content, empty, List.append_nil] at room
        exact absurd (done room) (by simp)

theorem write_adds (b : BufferedSink) (bytes : List UInt8) : b.Adds bytes (b.write bytes) := by
  simp only [write]
  split
  next fits => exact b.take_adds bytes (Or.inl fits)
  next =>
    exact Adds.andThen id (f := fun flushed => flushed.take bytes) b.flush_adds
      (fun done => take_adds b.flush.state bytes (Or.inr (flush_pending done)))

theorem writeAll_adds (b : BufferedSink) (pieces : List (List UInt8)) :
    b.Adds pieces.flatten (b.writeAll pieces) := by
  induction pieces generalizing b with
  | nil => exact b.adds_nothing
  | cons piece rest ih =>
    exact Adds.andThen id (f := fun b => b.writeAll rest) (b.write_adds piece) (fun _ => ih _)

theorem writeAll_small (b : BufferedSink) (pieces : List (List UInt8))
    (small : b.size + pieces.flatten.length < capacity) :
    (b.writeAll pieces).failure = none ∧ (b.writeAll pieces).state.sink = b.sink := by
  induction pieces generalizing b with
  | nil => exact ⟨rfl, rfl⟩
  | cons piece rest ih =>
    rw [List.flatten_cons, List.length_append] at small
    have kept : b.write piece = .done (b.keep piece) := by
      rw [write, if_pos (by omega), take, if_pos (by omega)]
    have goes : b.writeAll (piece :: rest) = (b.keep piece).writeAll rest := by
      rw [writeAll, kept]
      rfl
    have size : (b.keep piece).size = b.size + piece.length := rfl
    rw [goes]
    exact ih (b.keep piece) (by omega)

theorem held_of_flush {b : BufferedSink} (done : b.flush.failure = none) :
    b.flush.state.sink.held = b.content := by
  have content := b.flush_adds.content_eq done
  rw [BufferedSink.content, flush_pending done, List.append_nil, List.append_nil] at content
  exact content

end BufferedSink

end SchedTelemetry
