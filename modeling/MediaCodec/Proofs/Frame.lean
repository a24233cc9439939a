/-
Frames — what an operation on a codec leaves alone.

An operation on a handle calls entry points of its backend and nothing else, it calls none of
them once the handle is closed, and of the state of the process it changes the calls made and
the threads begun.  In particular it closes nothing, and it leaves the shared cell and the slot
of the C callers as they were, however it ends.

`State.Used` says so, and it is a trail.  Whatever is compositional holds of every request as soon
as it holds of the three operations that requests are made of (`Run.Compositional.perform`), and so
this does.
-/

import MediaCodec.Proofs.Dispatch
import MediaCodec.Service.Request

namespace MediaCodec

/-- A call of an entry point of a backend. -/
def Call.IsInvoke (c : Call) : Prop := ∃ op bytes, c = .invoke op bytes

/-- What operations on a handle do to a state, with the calls that they make. -/
structure State.Used (h : Handle) (p : State) (cs : List Call) (q : State) : Prop where
  kept : q = { p with past := p.past ++ cs, threads := q.threads }
  invokes : ∀ c ∈ cs, c.IsInvoke
  silent : p.hasClosed h = true → cs = []

namespace State.Used

variable {h : Handle} {p q : State} {cs : List Call}

theorem closed_eq (u : Used h p cs q) : q.closed = p.closed := by rw [u.kept]

theorem cell_eq (u : Used h p cs q) : q.cell = p.cell := by rw [u.kept]

theorem slot_eq (u : Used h p cs q) : q.slot = p.slot := by rw [u.kept]

theorem hasClosed_eq (u : Used h p cs q) (k : Handle) : q.hasClosed k = p.hasClosed k := by
  rw [hasClosed, hasClosed, u.closed_eq]

/-- Nothing was done. -/
theorem rfl' (p : State) : Used h p [] p :=
  ⟨by simp, fun _ hc => absurd hc List.not_mem_nil, fun _ => rfl⟩

/-- The backend was asked once. -/
theorem called (op : Operation) (bytes : Bytes) (hopen : p.hasClosed h = false) :
    Used h p [.invoke op bytes] (p.called (.invoke op bytes)) := by
  refine ⟨rfl, ?_, ?_⟩
  · intro c hc
    rw [List.mem_singleton] at hc
    exact ⟨op, bytes, hc⟩
  · intro hclosed
    rw [hopen] at hclosed
    exact absurd hclosed Bool.false_ne_true

theorem trail (h : Handle) : Trail (Used h) where
  refl := rfl'
  trans := by
    intro p q r a b hpq hqr
    refine ⟨?_, ?_, ?_⟩
    · rw [hqr.kept, hpq.kept]
      simp [List.append_assoc]
    · intro c hc
      rcases List.mem_append.mp hc with hc | hc
      · exact hpq.invokes c hc
      · exact hqr.invokes c hc
    · intro hclosed
      have hclosed' : q.hasClosed h = true := by rw [hpq.hasClosed_eq, hclosed]
      rw [hpq.silent hclosed, hqr.silent hclosed', List.append_nil]

end State.Used

/-! ## The calls of a dispatcher -/

namespace Dispatcher

variable {d : Dispatcher} {op : Operation} {input : MediaBuffer}

/-- A call keeps the frame as soon as its body does on an open handle. -/
theorem keeps_invoke {body : Invocation → Run CodecError α}
    (h : ∀ p, input.fault? d.options.maxInputBytes = none → p.hasClosed d.handle = false →
      State.Used d.handle p (d.invoke op input body p).journal.calls
        (d.invoke op input body p).after) :
    (d.invoke op input body).Keeps (State.Used d.handle) := by
  intro p
  cases hfault : input.fault? d.options.maxInputBytes with
  | some f =>
      rw [invoke_of_fault hfault]
      simpa using State.Used.rfl' p
  | none =>
      cases hclosed : p.hasClosed d.handle with
      | true =>
          rw [invoke_of_closed hfault hclosed]
          simpa using State.Used.rfl' p
      | false => exact h p hfault hclosed

theorem keeps_dispatchChunks (d : Dispatcher) :
    (d.dispatchChunks op input).Keeps (State.Used d.handle) := by
  refine keeps_invoke fun p hvalid hopen => ?_
  show State.Used d.handle p (d.dispatchChunks op input p).journal.calls
    (d.dispatchChunks op input p).after
  cases hs : op.streaming? with
  | none =>
      rw [dispatchChunks_of_not_streaming hvalid hopen hs]
      simpa using State.Used.rfl' p
  | some s =>
      obtain ⟨hcalls, hafter⟩ := dispatchChunks_asks_once hvalid hopen hs
      rw [hcalls, hafter]
      exact State.Used.called _ _ hopen

theorem keeps_firstFrame (d : Dispatcher) : (d.firstFrame input).Keeps (State.Used d.handle) := by
  refine keeps_invoke fun p hvalid hopen => ?_
  obtain ⟨hcalls, hafter⟩ := firstFrame_asks_once hvalid hopen
  show State.Used d.handle p (d.firstFrame input p).journal.calls (d.firstFrame input p).after
  rw [hcalls, hafter]
  exact State.Used.called _ _ hopen

theorem keeps_videoSize (d : Dispatcher) : (d.videoSize input).Keeps (State.Used d.handle) := by
  refine keeps_invoke fun p hvalid hopen => ?_
  obtain ⟨hcalls, hafter⟩ := videoSize_asks_once hvalid hopen
  show State.Used d.handle p (d.videoSize input p).journal.calls (d.videoSize input p).after
  rw [hcalls, hafter]
  exact State.Used.called _ _ hopen

end Dispatcher

/-! ## The operations of a service -/

/-- The three operations of a service that its other operations are made of have a property. -/
structure Service.Founded (s : Service) (P : ∀ {ε α : Type}, Run ε α → Prop) : Prop where
  dispatch : ∀ op input, P (s.dispatch op input)
  videoFirstFrame : ∀ input, P (s.videoFirstFrame input)
  videoGetSize : ∀ input, P (s.videoGetSize input)

namespace Run.Compositional

section Requests

variable {P : ∀ {ε α : Type}, Run ε α → Prop} (hP : Compositional P) {s : Service}
  (hs : s.Founded P)
include hP hs

theorem pcmBehind (input : Buffer) : P (s.pcmBehind input) := by
  have hdecode : P (s.audioToPcm input) := hP.map (hs.dispatch .audioToPcm input) _
  refine hP.bind (hP.attempt hdecode) fun r => ?_
  match r with
  | .ok data => exact hP.pure _
  | .panic => exact hP.panic
  | .error (.codec (.backend _ code _)) => exact hP.bind (hP.event _) fun _ => hP.pure _
  | .error (.codec (.unsupportedPlatform _ _)) | .error (.codec (.backendLoad _))
  | .error (.codec (.invalidInput _)) | .error (.codec (.malformedResult _))
  | .error (.codec .backendClosed) | .error (.setup _) | .error .task => exact hP.fail _

theorem encodeVoice (input : Buffer) : P (s.encodeVoice input) := by
  refine hP.within _ (hP.bind (hP.pcmBehind hs input) fun pcm => ?_)
  refine hP.bind (hP.map (hs.dispatch .silkEncode _) _) fun silk => ?_
  exact hP.bind (hP.event _) fun _ => hP.pure _

/-- Every request has the property. -/
theorem perform (r : Request) (input : Buffer) : P (r.perform s input) := by
  have hstream : ∀ op, P (s.dispatch op input) := fun op => hs.dispatch op input
  cases r with
  | audioToPcm => exact hP.map (hP.map (hstream .audioToPcm) _) _
  | audioToPcmChunks => exact hP.map (hstream .audioToPcm) _
  | silkDecode => exact hP.map (hP.map (hstream .silkDecode) _) _
  | silkDecodeChunks => exact hP.map (hstream .silkDecode) _
  | silkEncode => exact hP.map (hP.map (hstream .silkEncode) _) _
  | silkEncodeChunks => exact hP.map (hstream .silkEncode) _
  | videoFirstFrame => exact hP.map (hs.videoFirstFrame input) _
  | videoGetSize => exact hP.map (hs.videoGetSize input) _
  | audioToMonoPcm => exact hP.map (hP.map (hP.map (hstream .audioToPcm) _) _) _
  | silkDecodePcm => exact hP.map (hP.map (hP.map (hstream .silkDecode) _) _) _
  | encodeVoice => exact hP.map (hP.encodeVoice hs input) _
  | videoPreview =>
      refine hP.map (hP.bind (hs.videoGetSize input) fun metadata => ?_) _
      exact hP.map (hs.videoFirstFrame input) _

end Requests

/-- An operation in the background has the property if it has it on a thread of its own. -/
theorem background {P : ∀ {ε α : Type}, Run ε α → Prop} (hP : Compositional P) {α : Type}
    {r : Run ServiceError α} (hr : P (Run.onNewThread r)) : P (Service.background r) := by
  refine hP.bind (hP.attempt hr) fun a => ?_
  cases a with
  | ok a => exact hP.pure a
  | error e => exact hP.fail e
  | panic => exact hP.fail ServiceError.task

end Run.Compositional

namespace Service

variable {s : Service} {input : Buffer} {h : Handle}

theorem keeps_dispatch (op : Streaming) : (s.dispatch op input).Keeps (State.Used s.handle) :=
  .within _ (.mapError _ (Dispatcher.keeps_dispatchChunks _))

theorem keeps_videoFirstFrame : (s.videoFirstFrame input).Keeps (State.Used s.handle) :=
  .within _ (.mapError _ (Dispatcher.keeps_firstFrame _))

theorem keeps_videoGetSize : (s.videoGetSize input).Keeps (State.Used s.handle) :=
  .within _ (.mapError _ (Dispatcher.keeps_videoSize _))

theorem keeps_perform (s : Service) (r : Request) :
    (r.perform s input).Keeps (State.Used s.handle) :=
  (State.Used.trail s.handle).compositional.perform
    ⟨fun op _ => keeps_dispatch op, fun _ => keeps_videoFirstFrame, fun _ => keeps_videoGetSize⟩
    r input

/-- A thread of its own changes nothing but the number of threads. -/
theorem keeps_onNewThread {r : Run ε α} (hr : r.Keeps (State.Used h)) :
    (Run.onNewThread r).Keeps (State.Used h) := by
  intro p
  obtain ⟨hkept, hinvokes, hsilent⟩ := hr { p with threads := p.threads + 1 }
  rw [Run.onNewThread_apply, Journal.calls_onThread]
  refine ⟨?_, hinvokes, hsilent⟩
  rw [hkept]

/-- An operation in the background keeps the frame, also where it panics. -/
theorem keeps_background {r : Run ServiceError α} (hr : r.Keeps (State.Used h)) :
    (background r).Keeps (State.Used h) :=
  (State.Used.trail h).compositional.background (keeps_onNewThread hr)

end Service

end MediaCodec
