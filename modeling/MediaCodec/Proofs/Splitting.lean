/-
Splitting — where a backend cuts its output does not matter to a caller of bytes.

A caller that asks for bytes gets the chunks joined.  Joining is plain concatenation, although it is
done in three ways, so a stream's bytes depend on its chunks only through their concatenation, and
so does the number of bytes that a collector has counted.

Take two backends that answer each streaming call with the same bytes and the same ending, and cut
the bytes as they like.  The streams that come of it differ, but joined they are the same; what a
caller does with them is the same; and what goes on to the next call is the same
(`Request.perform_of_resplits`).  This is so where partial results are dropped.  Where they are
kept, an error shows the chunks as they were cut.
-/

import MediaCodec.Proofs.Parallel

namespace MediaCodec

/-! ## Streams and their bytes -/

namespace ChunkStream

theorem concat_append (chunks chunks' : List Bytes) :
    concat ⟨chunks ++ chunks'⟩ = concat ⟨chunks⟩ ++ concat ⟨chunks'⟩ := by
  simp only [concat_eq_flatten, List.flatten_append]

theorem totalBytes_eq (s : ChunkStream) : s.totalBytes = s.concat.length := by
  obtain ⟨chunks⟩ := s
  rw [concat_eq_flatten]
  induction chunks with
  | nil => rfl
  | cons chunk rest ih =>
      show chunk.length + totalBytes ⟨rest⟩ = (chunk ++ rest.flatten).length
      rw [ih, List.length_append]

end ChunkStream

/-- A collector counts the bytes of what it takes in. -/
theorem ChunkCollector.totalBytes_foldl_push (chunks : List Bytes) (c : ChunkCollector) :
    (chunks.foldl push c).totalBytes = c.totalBytes + ChunkStream.totalBytes ⟨chunks⟩ := by
  induction chunks generalizing c with
  | nil => rfl
  | cons chunk rest ih =>
      rw [List.foldl_cons, ih]
      show c.totalBytes + chunk.length + _ = c.totalBytes + (chunk.length + _)
      rw [Nat.add_assoc]
      rfl

theorem ChunkCollector.totalBytes_ofList (chunks : List Bytes) :
    (ofList chunks).totalBytes = ChunkStream.totalBytes ⟨chunks⟩ := by
  rw [ofList, totalBytes_foldl_push]
  exact Nat.zero_add _

/-- Two streams have the same bytes, however they are cut. -/
def ChunkStream.SameBytes (s s' : ChunkStream) : Prop := s.chunks.flatten = s'.chunks.flatten

theorem ChunkStream.SameBytes.concat_eq {s s' : ChunkStream} (h : s.SameBytes s') :
    s.concat = s'.concat := by
  rw [concat_eq_flatten, concat_eq_flatten, h]

/-! ## Two backends that cut differently -/

/-- The second backend answers streaming calls as the first does, but may cut its output elsewhere.
Nothing is said about the events that they log. -/
structure Backend.Resplits (b b' : Backend) : Prop where
  ending : ∀ s past bytes, (b'.stream s past bytes).ending = (b.stream s past bytes).ending
  content : ∀ s past bytes,
    (b.stream s past bytes).chunks.flatten = (b'.stream s past bytes).chunks.flatten

namespace Backend.Resplits

variable {b b' : Backend} (hb : b.Resplits b') (id : Nat) (artifact artifact' : Option Artifact)
  (limit : Option UInt64)
include hb

theorem matches_chunks (op : Streaming) :
    (Dispatch.chunks op.operation).Matches Eq ChunkStream.SameBytes
      ⟨⟨id, artifact, b⟩, ⟨.discard, limit⟩⟩ ⟨⟨id, artifact', b'⟩, ⟨.discard, limit⟩⟩ := by
  refine ⟨?_, ?_⟩
  · intro past bytes h
    rw [Dispatch.answer?, op.streaming?_operation] at h
    exact absurd h (Option.some_ne_none _)
  · intro past bytes a h
    rw [Dispatch.answer?, op.streaming?_operation] at h
    obtain rfl := Option.some.inj h
    refine ⟨(b'.stream op past bytes).answer, ?_, hb.ending op past bytes, ?_⟩
    · rw [Dispatch.answer?, op.streaming?_operation]
      rfl
    · intro code _
      by_cases hok : code = Status.ok
      · rw [Dispatch.concluded, Dispatch.concluded, if_pos hok, if_pos hok]
        exact .ok (hb.content op past bytes)
      · -- A failure has dropped its chunks, and with them all that could differ.
        rw [Dispatch.concluded, Dispatch.concluded, if_neg hok, if_neg hok]
        exact .error rfl

theorem parallel_dispatch (op : Streaming) (input : Buffer) :
    Run.Parallel Eq Eq ChunkStream.SameBytes
      ((Service.ofHandle ⟨id, artifact, b⟩ ⟨.discard, limit⟩).dispatch op input)
      ((Service.ofHandle ⟨id, artifact', b'⟩ ⟨.discard, limit⟩).dispatch op input) :=
  -- The two handles are closed together, for they have one number.
  Service.parallel_dispatch rfl rfl (fun _ => rfl) (fun _ _ h => congrArg ServiceError.codec h)
    (hb.matches_chunks id artifact artifact' limit op)

/-- Joined, the two outputs are the same. -/
theorem parallel_joined (op : Streaming) (input : Buffer) :
    Run.Parallel Eq Eq Eq
      ((Service.ofHandle ⟨id, artifact, b⟩ ⟨.discard, limit⟩).dispatch op input >>=
        fun stream => pure stream.concat)
      ((Service.ofHandle ⟨id, artifact', b'⟩ ⟨.discard, limit⟩).dispatch op input >>=
        fun stream => pure stream.concat) :=
  (hb.parallel_dispatch id artifact artifact' limit op input).map fun _ _ h => h.concat_eq

end Backend.Resplits

/-! ## The requests for joined bytes -/

namespace Request

/-- Whether the answer is made of chunks that were joined. -/
def joins : Request → Bool
  | audioToPcm | silkDecode | silkEncode | audioToMonoPcm | silkDecodePcm | encodeVoice => true
  | audioToPcmChunks | silkDecodeChunks | silkEncodeChunks | videoFirstFrame | videoGetSize
  | videoPreview => false

theorem parallel_of_resplits {b b' : Backend} (hb : b.Resplits b') (id : Nat)
    (artifact artifact' : Option Artifact) (limit : Option UInt64) {r : Request}
    (hr : r.joins = true) (input : Buffer) :
    Run.Parallel Eq Eq Eq
      (r.perform (.ofHandle ⟨id, artifact, b⟩ ⟨.discard, limit⟩) input)
      (r.perform (.ofHandle ⟨id, artifact', b'⟩ ⟨.discard, limit⟩) input) := by
  have hP := Run.Parallel.congruence (S := Eq) (E := Eq) fun _ _ h => congrArg _ h
  have hjoined := hb.parallel_joined id artifact artifact' limit
  cases r with
  | audioToPcm => exact hP.map (hjoined .audioToPcm input) _
  | silkDecode => exact hP.map (hjoined .silkDecode input) _
  | silkEncode => exact hP.map (hjoined .silkEncode input) _
  | audioToMonoPcm => exact hP.map (hP.map (hjoined .audioToPcm input) _) _
  | silkDecodePcm => exact hP.map (hP.map (hjoined .silkDecode input) _) _
  | encodeVoice =>
      have hpcm := hP.pcmBehind (hjoined .audioToPcm input)
      exact hP.map (hP.encodeVoice hpcm (hjoined .silkEncode)) _
  | audioToPcmChunks | silkDecodeChunks | silkEncodeChunks | videoFirstFrame | videoGetSize
  | videoPreview => exact absurd hr Bool.false_ne_true

/-- Where a backend cuts its output makes no difference to what is joined from it, nor to what the
backend is asked after that.  For joining is concatenation, and the bytes of a stream are as many as
its collector has counted. -/
theorem perform_of_resplits {b b' : Backend} (hb : b.Resplits b') :
    (∀ (id : Nat) (artifact artifact' : Option Artifact) (limit : Option UInt64) (r : Request),
      r.joins = true → ∀ (input : Buffer) (p : State),
        let ran := r.perform (.ofHandle ⟨id, artifact, b⟩ ⟨.discard, limit⟩) input p
        let ran' := r.perform (.ofHandle ⟨id, artifact', b'⟩ ⟨.discard, limit⟩) input p
        ran'.result = ran.result ∧ ran'.journal.calls = ran.journal.calls ∧
          ran'.after = ran.after) ∧
      ∀ chunks chunks' : List Bytes,
        ChunkStream.concat ⟨chunks⟩ = chunks.flatten ∧
          ChunkStream.concat ⟨chunks ++ chunks'⟩ =
            ChunkStream.concat ⟨chunks⟩ ++ ChunkStream.concat ⟨chunks'⟩ ∧
          ChunkStream.totalBytes ⟨chunks⟩ = (ChunkStream.concat ⟨chunks⟩).length ∧
          (ChunkCollector.ofList chunks).totalBytes = ChunkStream.totalBytes ⟨chunks⟩ := by
  refine ⟨?_, ?_⟩
  · intro id artifact artifact' limit r hr input p ran ran'
    obtain ⟨hresult, hcalls, hafter⟩ :=
      parallel_of_resplits hb id artifact artifact' limit hr input p p rfl
    exact ⟨hresult.eq.symm, hcalls, hafter.symm⟩
  · intro chunks chunks'
    exact ⟨ChunkStream.concat_eq_flatten _, ChunkStream.concat_append chunks chunks',
      ChunkStream.totalBytes_eq _, ChunkCollector.totalBytes_ofList chunks⟩

end Request

/-- A codec that hands back its input in one piece. -/
def Backend.entire : Backend where
  stream _ _ bytes := { chunks := [bytes] }
  firstFrame _ _ := {}
  getSize _ _ := {}

/-- A codec that hands back its input in two pieces, after a chunk with nothing in it. -/
def Backend.crumbling : Backend where
  stream _ _ bytes := { chunks := [[], bytes.take 1, bytes.drop 1] }
  firstFrame _ _ := {}
  getSize _ _ := {}

/-- A voice message is the same from both, and what is encoded is what was decoded. -/
theorem Request.perform_of_crumbling :
    Backend.entire.Resplits .crumbling ∧
      let p : State := .fresh ⟨"/", ⟨"linux", "x86_64"⟩, ⟨true, fun _ _ => ⟨[], .ok .entire⟩⟩⟩ .empty
      let ran := fun b : Backend =>
        encodeVoice.perform (.ofHandle ⟨0, none, b⟩ ⟨.discard, none⟩) (.ofBytes [1, 2, 3]) p
      (ran .crumbling).result = (ran .entire).result ∧
        (ran .crumbling).journal.calls =
          [.invoke .audioToPcm [1, 2, 3], .invoke .silkEncode [1, 2, 3]] := by
  have hb : Backend.entire.Resplits .crumbling := by
    refine ⟨fun _ _ _ => rfl, fun s past bytes => ?_⟩
    show bytes ++ [] = [] ++ (bytes.take 1 ++ (bytes.drop 1 ++ []))
    rw [List.append_nil, List.append_nil, List.nil_append, List.take_append_drop]
  refine ⟨hb, ?_⟩
  intro p ran
  obtain ⟨hresult, hcalls, -⟩ :=
    (perform_of_resplits hb).1 0 none none none encodeVoice rfl (.ofBytes [1, 2, 3]) p
  exact ⟨hresult, hcalls.trans (by decide +kernel)⟩

end MediaCodec
