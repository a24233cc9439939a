/-
Remarks — what a dispatcher says about its calls.

A call in which the backend was asked ends with one remark.  What is in it is not read off the
answer: the collector keeps a running total, the chunks are counted before the policy drops them,
and the remark is made before the stream is.  `Dispatch.remarks` is the remark that a result calls
for, made of the result itself and of how many chunks were handed over.  That this is the remark
which is made holds for all three calls and all their ends (`Dispatch.events_of_answer`).

Before the remark comes what the backend itself had to say.  A backend may say anything, in any
name; that of a library never speaks as the dispatcher (`NativeLibrary.silent_meanwhile`).  A call
that does not come to its backend makes no such remark (`Dispatch.events_of_unasked`).
-/

import MediaCodec.Native.Library
import MediaCodec.Proofs.Single
import MediaCodec.Proofs.Splitting

namespace MediaCodec

/-! ## What is said in a call -/

theorem ChunkCollector.length_ofList (chunks : List Bytes) :
    (ofList chunks).length = chunks.length :=
  congrArg List.length (toList_ofList chunks)

namespace Dispatch

/-- What the backend says while it is asked. -/
def meanwhile (b : Backend) (past : List Call) (bytes : Bytes) : Dispatch → List Event
  | chunks op => op.streaming?.elim [] fun s => (b.stream s past bytes).events
  | frame => (b.firstFrame past bytes).events
  | size => (b.getSize past bytes).events

/-- What there is to count in an answer. -/
def measures : (c : Dispatch) → c.Output → List (String × Nat)
  | chunks _, stream => [("chunks", stream.length), ("bytes", stream.totalBytes)]
  | frame, bytes => [("bytes", bytes.length)]
  | size, m =>
    [("width", m.width.toNat), ("height", m.height.toNat), ("duration_ms", m.duration.toNat)]

/-- What is said of a result, of a call in which so many chunks were handed over. -/
def remarks (c : Dispatch) (emitted : Nat) : Attempt CodecError c.Output → List Event
  | .ok v => [Dispatcher.completed ((c.measures v).map fun m => (m.1, .unsigned m.2))]
  | .error (.backend _ code partials) =>
    [.say dispatchTarget .warn "Backend returned an error status"
      [("code", .signed code.toInt), ("emitted_chunks", .unsigned emitted),
       ("kept_chunks", .unsigned partials.length)]]
  | .error e => [.say dispatchTarget .warn e.message []]
  | .panic => []

theorem remarks_malformed (c : Dispatch) (emitted : Nat) (f : ResultFault) :
    c.remarks emitted (.error (.malformedResult f)) =
      [.say dispatchTarget .warn (CodecError.malformedResult f).message []] := rfl

end Dispatch

namespace Dispatcher

@[simp] theorem events_asked (op : Operation) (bytes : Bytes) (events : List Event) :
    Journal.events (asked op bytes events) = events := by
  simp [asked]

@[simp] theorem events_arrivals (c : ChunkCollector) : Journal.events (arrivals c) = [] := by
  unfold arrivals
  cases c.isEmpty <;> rfl

/-- What is said once the backend has answered comes after what it said itself. -/
theorem events_answered (s : Span) (op : Operation) (bytes : Bytes) (events : List Event)
    (j : Journal) :
    Journal.events (Journal.within s (asked op bytes events ++ j)) =
      (events ++ Journal.events j).map (Event.within s) := by
  rw [Journal.events_within, Journal.events_append, events_asked]

/-- Frames are counted in the remark as they are in the result. -/
theorem events_soleEnd (frames : List Bytes) :
    Journal.events (soleEnd frames) = Dispatch.frame.remarks frames.length (sole frames) := by
  match frames with
  | [_] | [] | _ :: _ :: _ => rfl

/-- The end of a call that was answered with a status; the chunks are counted before the policy and
after it. -/
theorem events_ending {c : Dispatch} {chunks : List Bytes} {j : Journal}
    {r : Attempt CodecError c.Output} (o : DispatchOptions) (op : Operation) (code : Status)
    (hj : j.events = c.remarks chunks.length r) :
    Journal.events (if code = Status.ok then j
        else [.event (failure o code (.ofList chunks)), .state .failed]) =
      c.remarks chunks.length
        (if code = Status.ok then r else .error (.backend op code (kept o chunks))) := by
  split
  · exact hj
  · rw [failure, ChunkCollector.length_ofList, ChunkCollector.toList_ofList]
    rfl

end Dispatcher

namespace Dispatch

variable {c : Dispatch} {d : Dispatcher} {input : MediaBuffer} {p : State}

section Open

variable (hvalid : input.fault? d.options.maxInputBytes = none)
  (hopen : p.hasClosed d.handle = false)
include hvalid hopen

theorem events_of_panic {a : Answer}
    (h : c.answer? d.handle.backend p.past input.data.toBytes = some a)
    (hpanic : a.ending = .panic) :
    (c.perform d input p).journal.events =
      (c.meanwhile d.handle.backend p.past input.data.toBytes).map
        (Event.within (Dispatcher.span c.operation input)) := by
  cases c with
  | chunks op =>
      obtain ⟨s, hs, rfl⟩ := Option.map_eq_some_iff.mp h
      rw [perform, Dispatcher.dispatchChunks_of_panic hvalid hopen hs rfl hpanic]
      simp [meanwhile, hs, operation]
  | frame =>
      obtain rfl := Option.some.inj h
      rw [perform, Dispatcher.firstFrame_of_panic hvalid hopen rfl hpanic]
      simp [meanwhile, operation]
  | size =>
      obtain rfl := Option.some.inj h
      rw [perform, Dispatcher.videoSize_of_panic hvalid hopen rfl hpanic]
      simp [meanwhile, operation]

theorem events_of_status {a : Answer} {code : Status}
    (h : c.answer? d.handle.backend p.past input.data.toBytes = some a)
    (hcode : a.ending = .status code) :
    (c.perform d input p).journal.events =
      (c.meanwhile d.handle.backend p.past input.data.toBytes ++
          c.remarks a.chunks.length (c.concluded d.options a code)).map
        (Event.within (Dispatcher.span c.operation input)) := by
  cases c with
  | chunks op =>
      obtain ⟨s, hs, rfl⟩ := Option.map_eq_some_iff.mp h
      generalize he : d.handle.backend.stream s p.past input.data.toBytes = e at *
      have hmeanwhile : (chunks op).meanwhile d.handle.backend p.past input.data.toBytes =
          e.events := by
        rw [meanwhile, hs, ← he]
        rfl
      have hcompleted : Journal.events [.state .completed,
          .event (Dispatcher.completed
            [("chunks", .unsigned (ChunkCollector.ofList e.chunks).length),
             ("bytes", .unsigned (ChunkCollector.ofList e.chunks).totalBytes)])] =
          (chunks op).remarks e.chunks.length (.ok ⟨e.chunks⟩) := by
        rw [ChunkCollector.length_ofList, ChunkCollector.totalBytes_ofList]
        rfl
      have hending := Dispatcher.events_ending d.options op code hcompleted
      rw [hmeanwhile, perform, Dispatcher.dispatchChunks_of_status hvalid hopen hs he hcode,
        List.append_assoc, Dispatcher.events_answered, Journal.events_append,
        Dispatcher.events_arrivals, List.nil_append, hending]
      rfl
  | frame =>
      obtain rfl := Option.some.inj h
      generalize he : d.handle.backend.firstFrame p.past input.data.toBytes = e at *
      have hending := Dispatcher.events_ending d.options .videoFirstFrame code
        (Dispatcher.events_soleEnd e.chunks)
      rw [meanwhile, he, perform, Dispatcher.firstFrame_of_status hvalid hopen he hcode,
        List.append_assoc, Dispatcher.events_answered, Journal.events_append,
        Dispatcher.events_arrivals, List.nil_append, hending]
      rfl
  | size =>
      obtain rfl := Option.some.inj h
      generalize he : d.handle.backend.getSize p.past input.data.toBytes = e at *
      have hcompleted : Journal.events [.state .completed,
          .event (Dispatcher.completed
            [("width", .unsigned e.metadata.width.toNat),
             ("height", .unsigned e.metadata.height.toNat),
             ("duration_ms", .unsigned e.metadata.duration.toNat)])] =
          size.remarks e.answer.chunks.length (.ok e.metadata) := rfl
      have hending := Dispatcher.events_ending d.options .videoGetSize code hcompleted
      rw [meanwhile, he, perform, Dispatcher.videoSize_of_status hvalid hopen he hcode,
        Dispatcher.events_answered]
      exact congrArg (fun said => (e.events ++ said).map (Event.within _)) hending

end Open

/-- The last thing said in a call is the remark on its result. -/
theorem events_of_answer {a : Answer} (hadmits : d.Admits input p)
    (h : c.answer? d.handle.backend p.past input.data.toBytes = some a) :
    (c.perform d input p).journal.events =
      (c.meanwhile d.handle.backend p.past input.data.toBytes ++
          c.remarks a.chunks.length (c.perform d input p).result).map
        (Event.within (Dispatcher.span c.operation input)) := by
  have hvalid := MediaBuffer.accepted_iff.mp hadmits.accepted
  have hopen := hadmits.opened
  cases hending : a.ending with
  | panic =>
      rw [events_of_panic hvalid hopen h hending, (course_of_panic hvalid hopen h hending).result,
        remarks, List.append_nil]
  | status code =>
      rw [events_of_status hvalid hopen h hending, (course_of_status hvalid hopen h hending).result]

/-- A call that does not come to its backend says nothing, or that its input is rejected. -/
theorem events_of_unasked (h : (c.perform d input p).journal.calls = []) :
    (c.perform d input p).journal.events = [] ∨ ∃ f, (c.perform d input p).journal.events =
      [(Dispatcher.rejected f).within (Dispatcher.span c.operation input)] := by
  obtain ⟨body, hbody⟩ : ∃ body, c.perform d input = d.invoke c.operation input body := by
    cases c <;> exact ⟨_, rfl⟩
  cases hfault : input.fault? d.options.maxInputBytes with
  | some f =>
      refine .inr ⟨f, ?_⟩
      rw [hbody, Dispatcher.invoke_of_fault hfault]
      rfl
  | none =>
  cases hclosed : p.hasClosed d.handle with
  | true =>
      refine .inl ?_
      rw [hbody, Dispatcher.invoke_of_closed hfault hclosed]
      rfl
  | false =>
  cases hanswer : c.answer? d.handle.backend p.past input.data.toBytes with
  | some a =>
      have hadmits : d.Admits input p := ⟨MediaBuffer.accepted_iff.mpr hfault, hclosed⟩
      have hasked := ((c.ends_perform d input p).asks hanswer hadmits).1
      rw [h] at hasked
      cases hasked
  | none =>
      refine .inl ?_
      cases c with
      | chunks op =>
          have hs : op.streaming? = none := Option.map_eq_none_iff.mp hanswer
          rw [perform, Dispatcher.dispatchChunks_of_not_streaming hfault hclosed hs]
          rfl
      | frame => cases hanswer
      | size => cases hanswer

end Dispatch

/-- While a library is asked, nobody speaks as the dispatcher. -/
theorem NativeLibrary.silent_meanwhile (l : NativeLibrary) (c : Dispatch) (past : List Call)
    (bytes : Bytes) : ∀ e ∈ c.meanwhile l.backend past bytes, e.target ≠ dispatchTarget := by
  have hnil : ∀ e ∈ ([] : List Event), e.target ≠ dispatchTarget :=
    fun _ he => absurd he List.not_mem_nil
  cases c with
  | chunks op =>
      rw [Dispatch.meanwhile]
      cases op.streaming? with
      | none => exact hnil
      | some s =>
          unfold backend
          dsimp only [Option.elim]
          split
          · exact hnil
          · exact hnil
  | frame =>
      rw [Dispatch.meanwhile]
      unfold backend frameEmission
      dsimp only
      split
      · exact hnil
      · dsimp only
        split
        · intro e he
          obtain rfl := List.mem_singleton.mp he
          decide
        · exact hnil
  | size =>
      rw [Dispatch.meanwhile]
      unfold backend
      dsimp only
      split
      · exact hnil
      · exact hnil

end MediaCodec
