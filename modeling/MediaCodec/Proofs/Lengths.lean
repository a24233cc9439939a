/-
Lengths — what a C caller is told of the size of what it gets.

A length goes to a C caller as a C `int`, and not every length fits one.  A frame that is too long
is refused, and the caller is told so.  A chunk that is too long is handed over all the same, and
what goes with it is the largest C `int`; so the callback is told of fewer bytes than there are, in
a call that returns success (`CodecCall.announces_perform`).

A native codec cannot cause this.  It gives the lengths of its chunks as C `int`s itself, and what
it hands over is no longer than it says (`NativeLibrary.length_le_of_mem_stream`).  A codec inside
the process has no such bound.
-/

import MediaCodec.Proofs.Marshalling
import MediaCodec.Proofs.Refinement
import MediaCodec.Proofs.Single

namespace MediaCodec

/-! ## The lengths that go with chunks -/

/-- The number of bytes that a callback was told of. -/
def Delivery.announced (ds : List Delivery) : Int := ds.foldr (fun d n => d.length.toInt + n) 0

/-- A chunk goes with its length, or with the largest C `int` if it is longer. -/
def Delivery.Clipped (d : Delivery) : Prop :=
  d.length.toInt = (min d.data.length Status.maxLength : Nat)

/-- No more bytes are announced than there are, and fewer if a chunk is too long. -/
theorem Delivery.announced_of_clipped {ds : List Delivery} (h : ∀ d ∈ ds, d.Clipped) :
    announced ds ≤ ChunkStream.totalBytes ⟨ds.map data⟩ ∧
      (announced ds = ChunkStream.totalBytes ⟨ds.map data⟩ ↔
        (Product.stream ⟨ds.map data⟩).Fits) := by
  induction ds with
  | nil => exact ⟨Int.le_refl 0, iff_of_true rfl fun _ h => absurd h List.not_mem_nil⟩
  | cons d rest ih =>
      obtain ⟨hd, hrest⟩ := List.forall_mem_cons.mp h
      obtain ⟨hle, hiff⟩ := ih hrest
      have hannounced : announced (d :: rest) =
          (min d.data.length Status.maxLength : Nat) + announced rest :=
        congrArg (· + announced rest) hd
      have htotal : ChunkStream.totalBytes ⟨(d :: rest).map data⟩ =
          d.data.length + ChunkStream.totalBytes ⟨rest.map data⟩ := rfl
      have hfits : (Product.stream ⟨(d :: rest).map data⟩).Fits ↔
          d.data.length ≤ Status.maxLength ∧ (Product.stream ⟨rest.map data⟩).Fits :=
        List.forall_mem_cons
      rw [hannounced, htotal, hfits, ← hiff]
      omega

/-! ## Native codecs -/

/-- What a length in a C `int` leaves of memory fits a C `int`. -/
theorem length_take_toInt_le (memory : Bytes) (n : Int32) :
    (memory.take n.toInt.toNat).length ≤ Status.maxLength := by
  have htake : (memory.take n.toInt.toNat).length ≤ n.toInt.toNat := List.length_take_le _ _
  have hbound : n.toInt < 2 ^ 31 := n.toInt_lt
  have hmax : Status.maxLength = 2 ^ 31 - 1 := rfl
  omega

namespace NativeLibrary

variable {l : NativeLibrary} {past : List Call} {bytes : Bytes} {chunk : Bytes}

theorem length_le_of_mem_stream {op : Streaming}
    (h : chunk ∈ (l.backend.stream op past bytes).chunks) : chunk.length ≤ Status.maxLength := by
  rw [backend_stream] at h
  split at h
  · exact absurd h List.not_mem_nil
  · rw [emission, CallbackInvocation.filterMap_payload?] at h
    obtain ⟨i, -, rfl⟩ := List.mem_map.mp h
    exact length_take_toInt_le _ _

theorem length_le_of_mem_firstFrame (h : chunk ∈ (l.backend.firstFrame past bytes).chunks) :
    chunk.length ≤ Status.maxLength := by
  rw [backend_firstFrame] at h
  split at h
  · exact absurd h List.not_mem_nil
  · obtain ⟨-, hleaves⟩ := FrameReply.payload?_eq_some_iff.mp (Option.mem_toList.mp h)
    obtain ⟨memory, -, rfl⟩ := hleaves.content
    exact length_take_toInt_le _ _

end NativeLibrary

/-! ## What a caller is told -/

namespace CodecCall

/-- How a product reaches a C caller, with the lengths that it is told. -/
inductive Announced : Product → Status → CallerMemory → Prop
  | stream {s : ChunkStream} {ds : List Delivery} (data : ds.map Delivery.data = s.chunks)
      (clipped : ∀ d ∈ ds, d.Clipped) : Announced (.stream s) Status.ok (.deliveries ds)
  | frame {b : Bytes} {size : Int32} (length : size.toInt = b.length) :
      Announced (.bytes b) Status.ok (.frame ⟨some (.frame b), some size⟩)
  /-- A frame that is too long does not reach the caller, and is no success. -/
  | long {b : Bytes} (exceeds : Status.maxLength < b.length) :
      Announced (.bytes b) Status.malformedResult (.frame ⟨some .null, some 0⟩)
  | metadata {m : VideoMetadata} : Announced (.metadata m) Status.ok (.record (some m))

section Method

variable {s : Service} {q : State} {c : CodecCall} {o : Product}

theorem announced_method (hpointers : c.lacksPointer = false)
    (h : (c.request.perform s (.ofBytes c.input.bytes) q).result = .ok o) :
    Announced o (Status.ofAttempt (c.method s q).result) (c.memory (c.method s q).result) := by
  cases c with
  | stream op input hasCallback =>
      rw [request_stream, Run.result_map, Attempt.map_eq_ok_iff] at h
      obtain ⟨⟨chunks⟩, hchunks, rfl⟩ := h
      have hmethod : ((stream op input hasCallback).method s q).result = .ok ⟨chunks⟩ := by
        rw [method_stream]
        exact hchunks
      rw [hmethod]
      refine .stream ?_ fun d hd => ?_
      · rw [List.map_map]
        exact List.map_id _
      · obtain ⟨chunk, -, rfl⟩ := List.mem_map.mp hd
        exact toInt_clampLength_eq chunk.length
  | firstFrame input slots =>
      rw [request_firstFrame, Run.result_map, Attempt.map_eq_ok_iff] at h
      obtain ⟨b, hb : (s.videoFirstFrame (.ofBytes input.bytes) q).result = .ok b, rfl⟩ := h
      rw [method_firstFrame, Run.bind_of_ok hb]
      by_cases hlong : b.length ≤ Status.maxLength
      · rw [if_pos hlong]
        exact .frame (toInt_clampLength hlong)
      · rw [if_neg hlong]
        match slots with
        | ⟨some _, some _⟩ => exact .long (Nat.not_le.mp hlong)
        | ⟨some _, none⟩ | ⟨none, _⟩ => cases hpointers
  | getSize input record =>
      rw [request_getSize, Run.result_map, Attempt.map_eq_ok_iff] at h
      obtain ⟨m, hm : (s.videoGetSize (.ofBytes input.bytes) q).result = .ok m, rfl⟩ := h
      rw [method_getSize, hm]
      exact .metadata

/-- What a native codec hands over can be announced. -/
theorem fits_of_native {l : NativeLibrary} (hl : s.handle.backend = l.backend)
    (h : (c.request.perform s (.ofBytes c.input.bytes) q).result = .ok o) : o.Fits := by
  have hmade {d : Dispatch} {v : d.Output} {a : Answer} {bytes : Bytes}
      (ha : d.answer? s.handle.backend q.past bytes = some a)
      (hv : ((d.perform s.dispatcher (.ofBuffer (.ofBytes bytes)) q).result.mapError
        ServiceError.codec) = .ok v) : d.made a = .ok v :=
    ((Dispatch.ok_iff ha).mp (Attempt.mapError_eq_ok_iff.mp hv)).2.2
  cases c with
  | stream op input hasCallback =>
      rw [request_stream, Run.result_map, Attempt.map_eq_ok_iff] at h
      obtain ⟨⟨chunks⟩, hchunks, rfl⟩ := h
      have hanswer := Dispatch.answer?_operation op s.handle.backend q.past input.bytes
      obtain rfl := ChunkStream.mk.inj (Attempt.ok.inj (hmade hanswer hchunks))
      intro chunk hchunk
      rw [hl] at hchunk
      exact NativeLibrary.length_le_of_mem_stream hchunk
  | firstFrame input slots =>
      rw [request_firstFrame, Run.result_map, Attempt.map_eq_ok_iff] at h
      obtain ⟨b, hb, rfl⟩ := h
      have hsole : (s.handle.backend.firstFrame q.past input.bytes).chunks = [b] :=
        Dispatcher.sole_eq_ok_iff.mp (hmade (d := .frame) rfl hb)
      rw [hl] at hsole
      exact NativeLibrary.length_le_of_mem_firstFrame (hsole ▸ List.mem_singleton_self b)
  | getSize input record =>
      rw [request_getSize, Run.result_map, Attempt.map_eq_ok_iff] at h
      obtain ⟨m, -, rfl⟩ := h
      trivial

end Method

/-- What a C caller is told of the lengths in the product of its call. -/
structure Announces (c : CodecCall) (s : Service) (p : State) (r : Ran ε (Status × CallerMemory)) :
    Prop where
  announced : ∀ o, (c.asked s p).result = .ok o →
    ∃ status memory, r.result = .ok (status, memory) ∧ Announced o status memory
  /-- A stream is always a success, and all its bytes are announced exactly if every chunk's length
  fits a C `int`. -/
  total : ∀ chunks, (c.asked s p).result = .ok (.stream chunks) →
    ∃ ds, r.result = .ok (Status.ok, .deliveries ds) ∧
      (Delivery.announced ds = chunks.totalBytes ↔ (Product.stream chunks).Fits)
  /-- With a native codec every length does. -/
  native : ∀ l : NativeLibrary, s.handle.backend = l.backend →
    ∀ o, (c.asked s p).result = .ok o → o.Fits

/-- A frame that is too long for a C `int` is refused; a chunk that is too long is announced as a
shorter one. -/
theorem announces_perform (c : CodecCall) (p : State) (s : Service)
    (hpointers : c.lacksPointer = false) (hfound : (Boundary.service p).result = .ok s) :
    c.Announces s p ((c.perform : Run ε _) p) := by
  have hservice : (Boundary.service p).ComesTo _ _ _ := Boundary.service_comesTo p
  have hasked : c.asked s p = c.request.perform s (.ofBytes c.input.bytes) p.serving := by
    rw [asked, hservice.after]
  have hran : ((c.perform : Run ε _) p).ComesTo _ _ _ :=
    perform_of_served hpointers (Boundary.served_of_found hfound)
  have hannounced : ∀ o, (c.asked s p).result = .ok o → ∃ status memory,
      ((c.perform : Run ε _) p).result = .ok (status, memory) ∧ Announced o status memory := by
    intro o ho
    rw [hasked] at ho
    exact ⟨_, _, hran.result, announced_method hpointers ho⟩
  refine ⟨hannounced, ?_, ?_⟩
  · intro chunks hchunks
    obtain ⟨status, memory, hresult, htold⟩ := hannounced _ hchunks
    cases htold with
    | @stream _ ds data clipped =>
        have htotal := (Delivery.announced_of_clipped clipped).2
        rw [data] at htotal
        exact ⟨ds, hresult, htotal⟩
  · intro l hl o ho
    rw [hasked] at ho
    exact fits_of_native hl ho

/-- The first call of a process, which is told of two bytes and then of none. -/
theorem announces_perform_echoing :
    let c : CodecCall := .stream .silkEncode ⟨some (.ofBytes [7, 8, 9]), 2⟩ true
    c.lacksPointer = false ∧ (Boundary.service .echoing).result = .ok .echo ∧
      (c.asked .echo .echoing).result = .ok (.stream ⟨[[7, 8], []]⟩) ∧
      c.Announces .echo .echoing ((c.perform : Run ServiceError _) .echoing) :=
  ⟨rfl, Boundary.service_echoing, rfl, announces_perform _ _ _ rfl Boundary.service_echoing⟩

end CodecCall

/-! ## A chunk that is too long -/

/-- A codec that hands over the same chunk, whatever it is asked for. -/
def Backend.handing (chunk : Bytes) : Backend where
  stream _ _ _ := { chunks := [chunk] }
  firstFrame _ _ := { chunks := [chunk] }
  getSize _ _ := {}

/-- A process whose slot holds a service on that codec. -/
def State.handing (chunk : Bytes) : State :=
  { machine := ⟨"/", ⟨"linux", "x86_64"⟩, ⟨true, fun _ _ => ⟨[], .ok .echo⟩⟩⟩
    slot := some (.ofHandle ⟨0, none, .handing chunk⟩ {}) }

namespace CodecCall

/-- An encoding of two bytes. -/
def encoding : CodecCall := .stream .silkEncode ⟨some (.ofBytes [1, 2]), 2⟩ true

/-- A chunk that is too long is announced with the largest C `int`, in a call that succeeds. -/
theorem result_encoding {chunk : Bytes} (h : Status.maxLength < chunk.length) :
    (encoding.asked (.ofHandle ⟨0, none, .handing chunk⟩ {}) (.handing chunk)).result =
        .ok (.stream ⟨[chunk]⟩) ∧
      ((encoding.perform : Run ServiceError _) (.handing chunk)).result =
        .ok (Status.ok, .deliveries [⟨chunk, 2147483647⟩]) := by
  have hchunk : Delivery.ofChunk chunk = ⟨chunk, 2147483647⟩ := by
    rw [Delivery.ofChunk, clampLength, Nat.min_eq_right (Nat.le_of_lt h)]
    rfl
  rw [← hchunk]
  exact ⟨rfl, rfl⟩

/-- A chunk of one byte more than a C `int` can count: the caller is told of all but that one, and
that the call was a success. -/
theorem announces_less_perform :
    let chunk : Bytes := List.replicate 2147483648 0
    Status.maxLength < chunk.length ∧
      (encoding.asked (.ofHandle ⟨0, none, .handing chunk⟩ {}) (.handing chunk)).result =
        .ok (.stream ⟨[chunk]⟩) ∧
      ((encoding.perform : Run ServiceError _) (.handing chunk)).result =
        .ok (Status.ok, .deliveries [⟨chunk, 2147483647⟩]) := by
  intro chunk
  have hlong : Status.maxLength < chunk.length := by
    rw [List.length_replicate]
    decide
  exact ⟨hlong, result_encoding hlong⟩

end CodecCall

end MediaCodec
