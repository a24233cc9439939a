/-
Refinement — a codec call of a C caller is a request of a service.

A C caller passes a pointer and a length, and gets back a number; whatever else there is stands
in its memory or went to its callback.  Behind that is a request of the service that the call
finds, on the bytes that pointer and length describe.  `CodecCall.refines_perform` says that the
call is this request: it calls the backend as the request does and leaves the process as the
request does, it succeeds exactly where the request does, and the request's product is what the
caller receives, chunk by chunk, or its error is the status.

Two things have to be seen for that.  No error of a request has the status of success, which is
a matter of the backend's failures: they are errors because their status is not success
(`Run.FailsVisibly`).  And the length that goes with a chunk is its length, as long as that fits
a C `int`.  A frame that does not fit is where the two part: the request succeeds, and the call
does not.
-/

import MediaCodec.Proofs.Process

namespace MediaCodec

/-! ## Errors have a status of their own -/

/-- No error of the computation has the status of success. -/
def Run.FailsVisibly (r : Run CodecError α) : Prop :=
  ∀ p e, (r p).result = .error e → e.status ≠ Status.ok

namespace Dispatcher

variable {d : Dispatcher} {op : Operation} {input : MediaBuffer}

theorem failsVisibly_invoke {body : Invocation → Run CodecError α}
    (h : ∀ p e, input.fault? d.options.maxInputBytes = none → p.hasClosed d.handle = false →
      (d.invoke op input body p).result = .error e → e.status ≠ Status.ok) :
    (d.invoke op input body).FailsVisibly := by
  intro p e he
  cases hfault : input.fault? d.options.maxInputBytes with
  | some f =>
      rw [invoke_of_fault hfault] at he
      cases he
      exact (by decide : Status.invalidInput ≠ Status.ok)
  | none =>
      cases hclosed : p.hasClosed d.handle with
      | true =>
          rw [invoke_of_closed hfault hclosed] at he
          cases he
          exact (by decide : Status.backendClosed ≠ Status.ok)
      | false => exact h p e hfault hclosed he

/-- The backend's own status is an error's status only if it is not success. -/
theorem status_ne_ok_of_answer {code : Status} {answer : Attempt CodecError α} {partials : List Bytes}
    {e : CodecError} (he : (if code = Status.ok then answer else .error (.backend op code partials))
      = .error e) (hanswer : answer = .error e → e.status ≠ Status.ok) : e.status ≠ Status.ok := by
  by_cases hok : code = Status.ok
  · rw [if_pos hok] at he
    exact hanswer he
  · rw [if_neg hok] at he
    cases he
    exact hok

theorem failsVisibly_dispatchChunks (d : Dispatcher) (op : Operation) (input : MediaBuffer) :
    (d.dispatchChunks op input).FailsVisibly := by
  refine failsVisibly_invoke fun p e hvalid hopen he => ?_
  change (d.dispatchChunks op input p).result = .error e at he
  cases hs : op.streaming? with
  | none =>
      rw [dispatchChunks_of_not_streaming hvalid hopen hs] at he
      cases he
      exact (by decide : Status.invalidInput ≠ Status.ok)
  | some s =>
      cases hending : (d.handle.backend.stream s p.past input.data.toBytes).ending with
      | panic =>
          rw [dispatchChunks_of_panic hvalid hopen hs rfl hending] at he
          cases he
      | status code =>
          rw [dispatchChunks_of_status hvalid hopen hs rfl hending] at he
          exact status_ne_ok_of_answer he fun hstream => nomatch hstream

theorem failsVisibly_firstFrame (d : Dispatcher) (input : MediaBuffer) :
    (d.firstFrame input).FailsVisibly := by
  refine failsVisibly_invoke fun p e hvalid hopen he => ?_
  change (d.firstFrame input p).result = .error e at he
  cases hending : (d.handle.backend.firstFrame p.past input.data.toBytes).ending with
  | panic =>
      rw [firstFrame_of_panic hvalid hopen rfl hending] at he
      cases he
  | status code =>
      rw [firstFrame_of_status hvalid hopen rfl hending] at he
      refine status_ne_ok_of_answer he fun hsole => ?_
      -- The backend succeeded, so the number of frames is what is wrong.
      rcases sole_cases (d.handle.backend.firstFrame p.past input.data.toBytes).chunks with
        ⟨b, -, hone⟩ | ⟨-, hcount⟩
      · cases hone.symm.trans hsole
      · cases hcount.symm.trans hsole
        exact (by decide : Status.malformedResult ≠ Status.ok)

theorem failsVisibly_videoSize (d : Dispatcher) (input : MediaBuffer) :
    (d.videoSize input).FailsVisibly := by
  refine failsVisibly_invoke fun p e hvalid hopen he => ?_
  change (d.videoSize input p).result = .error e at he
  cases hending : (d.handle.backend.getSize p.past input.data.toBytes).ending with
  | panic =>
      rw [videoSize_of_panic hvalid hopen rfl hending] at he
      cases he
  | status code =>
      rw [videoSize_of_status hvalid hopen rfl hending] at he
      exact status_ne_ok_of_answer he fun hmetadata => nomatch hmetadata

end Dispatcher

theorem Run.FailsVisibly.codec {r : Run CodecError α} (h : r.FailsVisibly) {p : State}
    {e : ServiceError} (he : ((r p).result.mapError ServiceError.codec) = .error e) :
    ∃ f, e = .codec f ∧ f.status ≠ Status.ok := by
  cases hr : (r p).result with
  | ok a =>
      rw [hr] at he
      cases he
  | panic =>
      rw [hr] at he
      cases he
  | error f =>
      rw [hr] at he
      cases he
      exact ⟨f, rfl, h p f hr⟩

/-! ## Finding a service -/

/-- Finding a service calls the loader, if anything. -/
theorem State.isLoad_of_mem_servingLoads {p : State} {call : Call} (h : call ∈ p.servingLoads) :
    call.isLoad = true := by
  cases hslot : p.slot with
  | some s =>
      rw [State.servingLoads_of_some hslot] at h
      exact absurd h List.not_mem_nil
  | none =>
      rw [State.servingLoads_of_none hslot, ← State.filter_sharingLoads] at h
      exact (List.mem_filter.mp h).2

theorem Boundary.served_of_found {p : State} {s : Service} (h : (Boundary.service p).result = .ok s) :
    p.served = .ok s := by
  have hservice : (Boundary.service p).ComesTo _ _ _ := Boundary.service_comesTo p
  have hresult := hservice.result.symm.trans h
  cases hserved : p.served with
  | error e =>
      rw [hserved] at hresult
      cases hresult
  | ok t =>
      rw [hserved] at hresult
      cases hresult
      rfl

/-! ## What a caller passes, and what it receives -/

namespace ForeignInput

/-- The bytes that a C caller passes: as many as the length says, and none without a pointer. -/
def bytes (i : ForeignInput) : Bytes :=
  match i.data with
  | none => []
  | some b => b.toBytes.take i.length.toInt.toNat

theorem slice_eq_ofBytes (i : ForeignInput) : i.slice = .ofBytes i.bytes := by
  obtain ⟨data, length⟩ := i
  cases data with
  | none => rfl
  | some b =>
      refine Buffer.ext_read ?_
      show (if length ≤ 0 then Buffer.empty else b.take length.toInt.toNat).toBytes
        = b.toBytes.take length.toInt.toNat
      by_cases hlength : length ≤ 0
      · have hnone : length.toInt.toNat = 0 := Int.toNat_of_nonpos (Int32.le_iff_toInt_le.mp hlength)
        rw [if_pos hlength, hnone, List.take_zero]
        rfl
      · rw [if_neg hlength, Buffer.toBytes_take]

end ForeignInput

/-- A length in a C `int` is itself, or the largest C `int`. -/
theorem toInt_clampLength_eq (n : Nat) : (clampLength n).toInt = (min n Status.maxLength : Nat) :=
  Int32.toInt_ofNat_of_lt (Nat.lt_succ_of_le (Nat.min_le_right n Status.maxLength))

theorem toInt_clampLength {n : Nat} (h : n ≤ Status.maxLength) : (clampLength n).toInt = n := by
  rw [toInt_clampLength_eq, Nat.min_eq_left h]

/-- What a caller's memory holds after it was handed a product: the callback was called once for
each chunk, in their order, with the bytes and their number; or the variables hold the frame and
its size; or the record holds the metadata. -/
inductive CallerMemory.Holds : CallerMemory → Product → Prop
  | stream {ds : List Delivery} {s : ChunkStream} (data : ds.map Delivery.data = s.chunks)
      (lengths : ∀ d ∈ ds, d.length.toInt = d.data.length) : Holds (.deliveries ds) (.stream s)
  | frame {b : Bytes} {size : Int32} (length : size.toInt = b.length) :
      Holds (.frame ⟨some (.frame b), some size⟩) (.bytes b)
  | metadata {m : VideoMetadata} : Holds (.record (some m)) (.metadata m)

/-- Whether every length in a product fits a C `int`. -/
def Product.Fits : Product → Prop
  | .stream s => ∀ chunk ∈ s.chunks, chunk.length ≤ Status.maxLength
  | .bytes b => b.length ≤ Status.maxLength
  | _ => True

theorem CallerMemory.holds_deliveries {s : ChunkStream} (h : (Product.stream s).Fits) :
    Holds (.deliveries (s.chunks.map .ofChunk)) (.stream s) := by
  refine .stream ?_ fun d hd => ?_
  · rw [List.map_map]
    exact List.map_id _
  · obtain ⟨chunk, hchunk, rfl⟩ := List.mem_map.mp hd
    exact toInt_clampLength (h chunk hchunk)

namespace CodecCall

def input : CodecCall → ForeignInput
  | stream _ input _ | firstFrame input _ | getSize input _ => input

/-- What a call asks of the service. -/
def request : CodecCall → Request
  | stream .audioToPcm _ _ => .audioToPcmChunks
  | stream .silkDecode _ _ => .silkDecodeChunks
  | stream .silkEncode _ _ => .silkEncodeChunks
  | firstFrame _ _ => .videoFirstFrame
  | getSize _ _ => .videoGetSize

/-- How the answer of a request reaches a C caller. -/
structure Conveys (r : Attempt ServiceError Product) (status : Status) (memory : CallerMemory) :
    Prop where
  /-- The call succeeds exactly where the request does, a frame too long for a C `int` aside. -/
  ok_iff : status = Status.ok ↔
    ∃ o, r = .ok o ∧ ∀ b, o = .bytes b → b.length ≤ Status.maxLength
  /-- The caller receives the product. -/
  product : ∀ o, r = .ok o → o.Fits → memory.Holds o
  /-- The status of an error is the status of the codec's failure. -/
  error : ∀ e, r = .error e → ∃ f, e = .codec f ∧ status = f.status

namespace Conveys

variable {memory : CallerMemory}

theorem of_ok {o : Product} (hlong : ∀ b, o = .bytes b → b.length ≤ Status.maxLength)
    (hholds : o.Fits → memory.Holds o) : Conveys (.ok o) Status.ok memory := by
  refine ⟨iff_of_true rfl ⟨o, rfl, hlong⟩, ?_, fun e he => nomatch he⟩
  rintro o ⟨⟩
  exact hholds

theorem of_error {e : ServiceError} (h : ∃ f, e = .codec f ∧ f.status ≠ Status.ok) :
    Conveys (.error e) e.status memory := by
  obtain ⟨f, rfl, hf⟩ := h
  refine ⟨iff_of_false hf ?_, fun o ho => (nomatch ho), ?_⟩
  · rintro ⟨o, ho, -⟩
    cases ho
  · rintro e ⟨⟩
    exact ⟨f, rfl, rfl⟩

theorem of_panic : Conveys .panic Status.internal memory := by
  refine ⟨iff_of_false (by decide) ?_, fun o ho => (nomatch ho), fun e he => nomatch he⟩
  rintro ⟨o, ho, -⟩
  cases ho

/-- A frame that is too long for the caller is no success of the call. -/
theorem of_long {b : Bytes} (h : ¬ b.length ≤ Status.maxLength) :
    Conveys (.ok (.bytes b)) Status.malformedResult memory := by
  refine ⟨iff_of_false (by decide) ?_, ?_, fun e he => nomatch he⟩
  · rintro ⟨o, ho, hlong⟩
    cases ho
    exact h (hlong b rfl)
  · rintro o ⟨⟩ hfits
    exact absurd hfits h

end Conveys

/-! The method behind a call and its request are the same operation of the service, on the same
bytes.  They differ in what they make of its answer, so that both make the same calls and leave the
same state, and what remains is that the answer of the one is conveyed as that of the other. -/

section Kinds

variable (s : Service) (q : State) (input : ForeignInput)

theorem method_stream (op : Streaming) (hasCallback : Bool) :
    (stream op input hasCallback).method s = s.dispatch op (.ofBytes input.bytes) := by
  rw [← input.slice_eq_ofBytes]
  rfl

theorem request_stream (op : Streaming) (hasCallback : Bool) (b : Buffer) :
    (stream op input hasCallback).request.perform s b
      = s.dispatch op b >>= fun chunks => pure (.stream chunks) := by
  cases op <;> rfl

theorem method_firstFrame (slots : FrameSlots) :
    (firstFrame input slots).method s = s.videoFirstFrame (.ofBytes input.bytes) >>= fun b =>
      if b.length ≤ Status.maxLength then pure b
      else Run.fail (.codec (.malformedResult (.frameTooLarge b.length))) := by
  rw [← input.slice_eq_ofBytes]
  rfl

theorem request_firstFrame (slots : FrameSlots) (b : Buffer) :
    (firstFrame input slots).request.perform s b
      = s.videoFirstFrame b >>= fun frame => pure (.bytes frame) := rfl

theorem method_getSize (record : Option VideoMetadata) :
    (getSize input record).method s = s.videoGetSize (.ofBytes input.bytes) := by
  rw [← input.slice_eq_ofBytes]
  rfl

theorem request_getSize (record : Option VideoMetadata) (b : Buffer) :
    (getSize input record).request.perform s b
      = s.videoGetSize b >>= fun m => pure (.metadata m) := rfl

theorem frame_method (c : CodecCall) :
    let asked := c.request.perform s (.ofBytes c.input.bytes) q
    (c.method s q).journal.calls = asked.journal.calls ∧ (c.method s q).after = asked.after := by
  intro asked
  cases c with
  | stream op input hasCallback =>
      have hasked : asked = _ := congrFun (request_stream s input op hasCallback _) q
      rw [method_stream, hasked, (Run.frame_map _ _ q).1, (Run.frame_map _ _ q).2]
      exact ⟨rfl, rfl⟩
  | firstFrame input slots =>
      have hasked : asked = _ := congrFun (request_firstFrame s input slots _) q
      rw [method_firstFrame, hasked, (Run.frame_map _ _ q).1, (Run.frame_map _ _ q).2]
      refine Run.frame_bind (fun b r => ?_) q
      by_cases hlong : b.length ≤ Status.maxLength
      · rw [if_pos hlong]
        exact ⟨rfl, rfl⟩
      · rw [if_neg hlong]
        exact ⟨rfl, rfl⟩
  | getSize input record =>
      have hasked : asked = _ := congrFun (request_getSize s input record _) q
      rw [method_getSize, hasked, (Run.frame_map _ _ q).1, (Run.frame_map _ _ q).2]
      exact ⟨rfl, rfl⟩

theorem conveys_method (c : CodecCall) :
    Conveys (c.request.perform s (.ofBytes c.input.bytes) q).result
      (Status.ofAttempt (c.method s q).result) (c.memory (c.method s q).result) := by
  cases c with
  | stream op input hasCallback =>
      rw [method_stream, request_stream, Run.result_map]
      show Conveys ((s.dispatch op (.ofBytes input.bytes) q).result.map _) _ _
      cases hresult : (s.dispatch op (.ofBytes input.bytes) q).result with
      | ok chunks => exact .of_ok (fun b hb => nomatch hb) CallerMemory.holds_deliveries
      | error e => exact .of_error ((Dispatcher.failsVisibly_dispatchChunks _ _ _).codec hresult)
      | panic => exact .of_panic
  | firstFrame input slots =>
      rw [method_firstFrame, request_firstFrame, Run.result_map]
      show Conveys ((s.videoFirstFrame (.ofBytes input.bytes) q).result.map _) _ _
      cases hresult : (s.videoFirstFrame (.ofBytes input.bytes) q).result with
      | ok b =>
          rw [Run.bind_of_ok hresult]
          by_cases hlong : b.length ≤ Status.maxLength
          · rw [if_pos hlong]
            refine .of_ok ?_ fun hfits => .frame (toInt_clampLength hfits)
            rintro b ⟨⟩
            exact hlong
          · rw [if_neg hlong]
            exact .of_long hlong
      | error e =>
          rw [Run.bind_of_error hresult]
          exact .of_error ((Dispatcher.failsVisibly_firstFrame _ _).codec hresult)
      | panic =>
          rw [Run.bind_of_panic hresult]
          exact .of_panic
  | getSize input record =>
      rw [method_getSize, request_getSize, Run.result_map]
      show Conveys ((s.videoGetSize (.ofBytes input.bytes) q).result.map _) _ _
      cases hresult : (s.videoGetSize (.ofBytes input.bytes) q).result with
      | ok m => exact .of_ok (fun b hb => nomatch hb) fun _ => .metadata
      | error e => exact .of_error ((Dispatcher.failsVisibly_videoSize _ _).codec hresult)
      | panic => exact .of_panic

end Kinds

/-- The request behind a call, performed on a service where the call finds that service. -/
def asked (c : CodecCall) (s : Service) (p : State) : Ran ServiceError Product :=
  c.request.perform s (.ofBytes c.input.bytes) (Boundary.service p).after

/-- What a codec call has in common with the request behind it. -/
structure Refines (c : CodecCall) (s : Service) (p : State) (r : Ran ε (Status × CallerMemory)) :
    Prop where
  /-- After the calls for finding the service come those of the request, and no others. -/
  calls : r.journal.calls = (Boundary.service p).journal.calls ++ (c.asked s p).journal.calls
  /-- Finding the service calls no backend: it loads one, if it calls anything. -/
  loads : ∀ call ∈ (Boundary.service p).journal.calls, call.isLoad = true
  after : r.after = (c.asked s p).after
  /-- The call comes back, with the answer of the request. -/
  answer : ∃ status memory, r.result = .ok (status, memory) ∧
    Conveys (c.asked s p).result status memory

/-- With its pointers, and with a service to be found, a codec call is a request of that service
on the bytes that the caller passes. -/
theorem refines_perform (c : CodecCall) (p : State) (s : Service)
    (hpointers : c.lacksPointer = false) (hfound : (Boundary.service p).result = .ok s) :
    c.Refines s p ((c.perform : Run ε _) p) := by
  have hservice : (Boundary.service p).ComesTo _ _ _ := Boundary.service_comesTo p
  have hasked : c.asked s p = c.request.perform s (.ofBytes c.input.bytes) p.serving := by
    rw [asked, hservice.after]
  have hran : ((c.perform : Run ε _) p).ComesTo _ _ _ := perform_of_served hpointers (Boundary.served_of_found hfound)
  obtain ⟨hcalls, hafter⟩ := frame_method s p.serving c
  refine ⟨?_, ?_, ?_, _, _, hran.result, ?_⟩
  · rw [hran.calls, hservice.calls, hcalls, hasked]
  · rw [hservice.calls]
    exact fun call => State.isLoad_of_mem_servingLoads
  · rw [hran.after, hafter, hasked]
  · rw [hasked]
    exact conveys_method s p.serving c

end CodecCall

/-- A codec that hands its input back, and an empty chunk after it. -/
def Backend.echo : Backend where
  stream _ _ bytes := { chunks := [bytes, []] }
  firstFrame _ bytes := { chunks := [bytes] }
  getSize _ _ := { width := some 4, height := some 3 }

/-- A process in which nothing has happened, and where that codec would be loaded. -/
def State.echoing : State :=
  .fresh ⟨"/", ⟨"linux", "x86_64"⟩, ⟨true, fun _ _ => ⟨[], .ok .echo⟩⟩⟩ .empty

/-- The service that the first call of that process finds. -/
def Service.echo : Service :=
  ⟨⟨⟨0, some ⟨.linuxX64, "/lib/linux-x64/liblagrangecodec.so"⟩, .echo⟩, {}⟩⟩

theorem Boundary.service_echoing : (Boundary.service .echoing).result = .ok .echo := by
  rfl

/-- The first call of a process, which has to find its service by loading it. -/
theorem CodecCall.refines_perform_echoing :
    let c : CodecCall := .stream .silkEncode ⟨some (.ofBytes [7, 8, 9]), 2⟩ true
    c.lacksPointer = false ∧ (Boundary.service .echoing).result = .ok .echo ∧
      c.Refines .echo .echoing ((c.perform : Run ServiceError _) .echoing) :=
  ⟨rfl, Boundary.service_echoing, refines_perform _ _ _ rfl Boundary.service_echoing⟩

end MediaCodec
