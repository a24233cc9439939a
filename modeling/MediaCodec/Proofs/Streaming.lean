/-
Streaming — from a backend's buffer to the caller's stream.

A backend hands over slices of memory of its own, and as soon as the receiver has returned it
may write to that memory again.  `Deed` says what it can do there, and `attend` has a collector
stand by while it does so.  The collector copies, so what it ends with are the slices as they
were when they were handed over, whatever was written later (`collector_foldl_attend`).

`dispatchChunks_outcome` then follows a streaming call from end to end: four things can decide
it, in a fixed order, and only the last of them involves the backend.
-/

import MediaCodec.Proofs.Dispatch

namespace MediaCodec

/-! ## A backend and its buffer -/

/-- What a backend does with its buffer during a call. -/
inductive Deed
  /-- It puts other content into the buffer. -/
  | write (content : Bytes)
  /-- It hands over a slice of the buffer. -/
  | hand (start length : Nat)
  deriving DecidableEq, Repr

namespace Deed

/-- The slice of a buffer that is handed over. -/
def slice (buffer : Bytes) (start length : Nat) : Bytes := (buffer.drop start).take length

/-- One deed, with a collector that takes in what is handed over. -/
def attend : Bytes × ChunkCollector → Deed → Bytes × ChunkCollector
  | (_, c), write content => (content, c)
  | (buffer, c), hand start length => (buffer, c.push (slice buffer start length))

/-- The slices that are handed over, each as it was at that moment. -/
def slices : Bytes → List Deed → List Bytes
  | _, [] => []
  | _, write content :: rest => slices content rest
  | buffer, hand start length :: rest => slice buffer start length :: slices buffer rest

/-- A collector that stands by ends with the slices as they were handed over. -/
theorem collector_foldl_attend (deeds : List Deed) (buffer : Bytes) (c : ChunkCollector) :
    (deeds.foldl attend (buffer, c)).2.toList = c.toList ++ slices buffer deeds := by
  induction deeds generalizing buffer c with
  | nil => simp [slices]
  | cons deed rest ih =>
      cases deed with
      | write content => exact ih content c
      | hand start length =>
          rw [List.foldl_cons, attend, ih, ChunkCollector.toList_push, slices,
            List.append_assoc, List.singleton_append]

/-- The deeds that hand over given chunks from a buffer that is written anew for each. -/
def ofChunks (chunks : List Bytes) : List Deed :=
  chunks.flatMap fun chunk => [write chunk, hand 0 chunk.length]

theorem slices_ofChunks (chunks : List Bytes) (buffer : Bytes) :
    slices buffer (ofChunks chunks) = chunks := by
  induction chunks generalizing buffer with
  | nil => rfl
  | cons chunk rest ih =>
      show slice chunk 0 chunk.length :: slices chunk (ofChunks rest) = _
      rw [ih, slice, List.drop_zero, List.take_length]

end Deed

/-- The emission's chunks are what a collector holds that stood by while the backend did these
things with its buffer. -/
def Emission.ArisesFrom (e : Emission) (buffer : Bytes) (deeds : List Deed) : Prop :=
  e.chunks = (deeds.foldl Deed.attend (buffer, {})).2.toList

namespace Emission

theorem arisesFrom_iff {e : Emission} {buffer : Bytes} {deeds : List Deed} :
    e.ArisesFrom buffer deeds ↔ e.chunks = Deed.slices buffer deeds := by
  rw [ArisesFrom, Deed.collector_foldl_attend]
  exact Iff.rfl

/-- Every emission comes about in some such way. -/
theorem exists_arisesFrom (e : Emission) : ∃ buffer deeds, e.ArisesFrom buffer deeds :=
  ⟨[], Deed.ofChunks e.chunks, arisesFrom_iff.mpr (Deed.slices_ofChunks e.chunks []).symm⟩

/-- A buffer that is used twice: the first chunk keeps what it was. -/
example : ({ chunks := [[1, 2, 3], [0]] } : Emission).ArisesFrom [1, 2, 3]
    [.hand 0 3, .write [0, 0, 0], .hand 0 1] := rfl

end Emission

/-! ## A streaming call from end to end -/

namespace Dispatcher

variable {d : Dispatcher} {op : Operation} {input : MediaBuffer} {p : State}

theorem streaming?_eq_none (h : op = .videoFirstFrame ∨ op = .videoGetSize) :
    op.streaming? = none := by
  rcases h with rfl | rfl <;> rfl

/-- A streaming call from end to end.  The input is checked first, then the handle, then the
operation; only a call that passes all three asks the backend, once, and with the given data.
Then the status decides between the stream of everything that was handed over and the error
that keeps as much of it as the options say. -/
theorem dispatchChunks_outcome (d : Dispatcher) (op : Operation) (input : MediaBuffer)
    (p : State) :
    let ran := d.dispatchChunks op input p
    let limit := d.options.maxInputBytes
    let bytes := input.data.toBytes
    (¬ input.Accepted limit →
      (∃ f, ran.result = .error (.invalidInput f)) ∧ ran.journal.calls = [] ∧ ran.after = p) ∧
    (input.Accepted limit → p.hasClosed d.handle = true →
      ran.result = .error .backendClosed ∧ ran.journal.calls = [] ∧ ran.after = p) ∧
    (input.Accepted limit → p.hasClosed d.handle = false →
      op = .videoFirstFrame ∨ op = .videoGetSize →
      ran.result = .error (.invalidInput (.notStreaming op)) ∧ ran.journal.calls = [] ∧
        ran.after = p) ∧
    (input.Accepted limit → p.hasClosed d.handle = false → ∀ s : Streaming, op = s.operation →
      let e := d.handle.backend.stream s p.past bytes
      ran.journal.calls = [.invoke op bytes] ∧ ran.after = p.called (.invoke op bytes) ∧
      (∃ buffer deeds, e.ArisesFrom buffer deeds) ∧
      ∀ buffer deeds code, e.ArisesFrom buffer deeds → e.ending = .status code →
        (∀ stream, ran.result = .ok stream ↔
          code = Status.ok ∧ stream.chunks = Deed.slices buffer deeds) ∧
        (code ≠ Status.ok → ran.result = .error (.backend op code
          (match d.options.partialResults with
            | .discard => []
            | .preserve => Deed.slices buffer deeds)))) := by
  intro ran limit bytes
  refine ⟨?_, ?_, ?_, ?_⟩
  · intro hrejected
    obtain ⟨f, hf⟩ := MediaBuffer.not_accepted_iff.mp hrejected
    have hran : ran = _ := invoke_of_fault hf
    rw [hran]
    exact ⟨⟨f, rfl⟩, by simp, rfl⟩
  · intro haccepted hclosed
    have hran : ran = _ := invoke_of_closed (MediaBuffer.accepted_iff.mp haccepted) hclosed
    rw [hran]
    exact ⟨rfl, by simp, rfl⟩
  · intro haccepted hopen hop
    have hran : ran = _ := dispatchChunks_of_not_streaming
      (MediaBuffer.accepted_iff.mp haccepted) hopen (streaming?_eq_none hop)
    rw [hran]
    exact ⟨rfl, by simp, rfl⟩
  · rintro haccepted hopen s rfl e
    have hvalid := MediaBuffer.accepted_iff.mp haccepted
    have hs := s.streaming?_operation
    obtain ⟨hcalls, hafter⟩ := dispatchChunks_asks_once hvalid hopen hs
    refine ⟨hcalls, hafter, e.exists_arisesFrom, ?_⟩
    intro buffer deeds code harises hcode
    have hran : ran = _ := dispatchChunks_of_status hvalid hopen hs rfl hcode
    rw [Emission.arisesFrom_iff] at harises
    rw [hran, ← harises]
    by_cases hok : code = Status.ok
    · refine ⟨fun stream => ?_, fun hne => absurd hok hne⟩
      simp only [hok, if_true, Attempt.ok.injEq, true_and]
      exact ⟨fun h => h ▸ rfl, fun h => congrArg ChunkStream.mk h.symm⟩
    · refine ⟨fun stream => ?_, fun _ => ?_⟩
      · simp [hok]
      · exact if_neg hok

end Dispatcher

end MediaCodec
