/-
Voice messages — one decoding, and one encoding of what came of it.

A voice message is decoded, and what came of that is encoded.  If the codec reports that it cannot
decode the input, then the input itself is encoded; any other error ends the operation, and so does
a panic.  So the second call has one of two contents, and which one it is says `Service.Obtains`:
what a successful decoding handed over, or the input.  The chunks of a failed decoding go nowhere
(`Service.composed_encodeVoice`).

The second call is a call like every other, and its input is checked like every other.  But that
input is not the caller's: it was made by the backend, and the backend can make nothing, or too
much.  Then the caller is told that the input was refused, after the backend was asked and although
nothing is wrong with what the caller passed (`Service.encodeVoice_refuses`).
-/

import MediaCodec.Proofs.Policy
import MediaCodec.Proofs.Single

namespace MediaCodec

namespace Service

/-! ## Joined answers -/

/-- A streaming call whose answer is joined. -/
def joined (s : Service) (op : Streaming) (input : Buffer) : Run ServiceError Bytes :=
  s.dispatch op input >>= fun stream => pure stream.concat

section Joined

variable {s : Service} {op : Streaming} {input : Buffer} {p : State}

theorem comesTo_joined (s : Service) (op : Streaming) (input : Buffer) (p : State) :
    let ran := (Dispatch.chunks op.operation).perform s.dispatcher (.ofBuffer input) p
    (s.joined op input p).ComesTo ((ran.result.mapError .codec).map ChunkStream.concat)
      ran.journal.calls ran.after := by
  intro ran
  have hran : ((Dispatch.chunks op.operation).perform s.dispatcher (.ofBuffer input) p).ComesTo
      ran.result ran.journal.calls ran.after := ⟨rfl, rfl, rfl⟩
  exact ((hran.mapError ServiceError.codec).within _).bind_answer fun _ _ => ⟨rfl, rfl, rfl⟩

theorem joined_eq_error_iff {e : CodecError} :
    (s.joined op input p).result = .error (.codec e) ↔
      ((Dispatch.chunks op.operation).perform s.dispatcher (.ofBuffer input) p).result =
        .error e := by
  rw [(comesTo_joined s op input p).result, Attempt.map_eq_error_iff,
    Attempt.mapError_eq_error_iff]
  constructor
  · rintro ⟨f, h, heq⟩
    cases heq
    exact h
  · exact fun h => ⟨e, h, rfl⟩

/-- What is joined is what a successful call handed over. -/
theorem joined_eq_ok_iff {data : Bytes} :
    (s.joined op input p).result = .ok data ↔
      s.dispatcher.Admits (.ofBuffer input) p ∧
        (s.handle.backend.stream op p.past input.toBytes).ending = .status Status.ok ∧
        data = (s.handle.backend.stream op p.past input.toBytes).chunks.flatten := by
  have hconcat : ∀ chunks : List Bytes, ChunkStream.concat ⟨chunks⟩ = chunks.flatten :=
    fun chunks => ChunkStream.concat_eq_flatten ⟨chunks⟩
  rw [(comesTo_joined s op input p).result, Attempt.map_eq_ok_iff]
  constructor
  · rintro ⟨stream, h, rfl⟩
    obtain ⟨hadmits, hok, hmade⟩ :=
      (Dispatch.ok_iff (Dispatch.answer?_operation _ _ _ _)).mp (Attempt.mapError_eq_ok_iff.mp h)
    obtain rfl := Attempt.ok.inj hmade
    exact ⟨hadmits, hok, hconcat _⟩
  · rintro ⟨hadmits, hok, rfl⟩
    refine ⟨_, Attempt.mapError_eq_ok_iff.mpr ?_, hconcat _⟩
    exact (Dispatch.ok_iff (Dispatch.answer?_operation _ _ _ _)).mpr ⟨hadmits, hok, rfl⟩

theorem joined_eq_rejected_iff {f : InputFault} :
    (s.joined op input p).result = .error (.codec (.invalidInput f)) ↔
      (MediaBuffer.ofBuffer input).fault? s.dispatcher.options.maxInputBytes = some f :=
  joined_eq_error_iff.trans (Dispatch.rejected_iff (Dispatch.answer?_operation _ _ _ _))

theorem joined_eq_reported_iff {o : Operation} {code : Status} {kept : List Bytes} :
    (s.joined op input p).result = .error (.codec (.backend o code kept)) ↔
      s.dispatcher.Admits (.ofBuffer input) p ∧
        (s.handle.backend.stream op p.past input.toBytes).ending = .status code ∧
        code ≠ Status.ok ∧ o = op.operation ∧
        kept = Dispatcher.kept s.dispatcher.options
          (s.handle.backend.stream op p.past input.toBytes).chunks :=
  joined_eq_error_iff.trans (Dispatch.failed_iff (Dispatch.answer?_operation _ _ _ _))

/-- A call that gets through asks the backend once, and one that does not leaves all as it is. -/
theorem guarded_joined (s : Service) (op : Streaming) (input : Buffer) (p : State) :
    (s.dispatcher.Admits (.ofBuffer input) p →
        (s.joined op input p).journal.calls = [.invoke op.operation input.toBytes] ∧
          (s.joined op input p).after = p.called (.invoke op.operation input.toBytes)) ∧
      (¬ s.dispatcher.Admits (.ofBuffer input) p →
        (s.joined op input p).journal.calls = [] ∧ (s.joined op input p).after = p) := by
  have hguarded : (Dispatch.chunks op.operation).Guarded s.dispatcher (.ofBuffer input) p _ :=
    Dispatch.guarded_perform (Dispatch.answer?_operation _ _ _ _)
  obtain ⟨-, -, hsilent, hasks⟩ := hguarded
  rw [(comesTo_joined s op input p).calls, (comesTo_joined s op input p).after]
  exact ⟨hasks, hsilent⟩

end Joined

/-! ## From a decoding to an encoding -/

/-- What is encoded after a decoding that ended so: what was decoded, or the input if the codec
reported a failure. -/
inductive Recovers (input : Buffer) : Attempt ServiceError Bytes → Bytes → Prop
  | decoded {data : Bytes} : Recovers input (.ok data) data
  | undecoded {op : Operation} {code : Status} {kept : List Bytes} :
      Recovers input (.error (.codec (.backend op code kept))) input.toBytes

theorem recovers_cases (input : Buffer) (r : Attempt ServiceError Bytes) :
    (∃ pcm, Recovers input r pcm) ∨ (∃ e, r = .error e ∧ e.reported? = none) ∨ r = .panic := by
  cases r with
  | ok data => exact .inl ⟨data, .decoded⟩
  | panic => exact .inr (.inr rfl)
  | error e =>
      cases e with
      | setup c => exact .inr (.inl ⟨_, rfl, rfl⟩)
      | task => exact .inr (.inl ⟨_, rfl, rfl⟩)
      | codec c =>
          cases c with
          | backend op code kept => exact .inl ⟨_, .undecoded⟩
          | _ => exact .inr (.inl ⟨_, rfl, rfl⟩)

section Run

variable {s : Service} {input : Buffer} {p : State}

/-- The PCM behind an input costs no call but the decoding. -/
theorem comesTo_pcmBehind {result : Attempt ServiceError PcmAudio}
    (h : ∀ q, (recovered input (s.audioToPcm input p).result q).ComesTo result [] q) :
    (s.pcmBehind input p).ComesTo result (s.audioToPcm input p).journal.calls
      (s.audioToPcm input p).after := by
  have hattempt : (Run.attempt (s.audioToPcm input) p : Ran ServiceError _).ComesTo
      (.ok (s.audioToPcm input p).result) (s.audioToPcm input p).journal.calls
      (s.audioToPcm input p).after := ⟨rfl, rfl, rfl⟩
  rw [pcmBehind_eq]
  exact hattempt.bind_silent (h _)

/-- The record that is made of PCM and its encoding. -/
def record (pcm silk : Bytes) : VoiceRecord := ⟨silk, (PcmAudio.native pcm).duration⟩

theorem encodeVoice_of_recovers {pcm : Bytes}
    (h : Recovers input (s.audioToPcm input p).result pcm) :
    let encode := s.silkEncode (.ofBytes pcm) (s.audioToPcm input p).after
    (s.encodeVoice input p).ComesTo (encode.result.map (record pcm))
      ((s.audioToPcm input p).journal.calls ++ encode.journal.calls) encode.after := by
  intro encode
  have hpcm : (s.pcmBehind input p).ComesTo (.ok (.native pcm))
      (s.audioToPcm input p).journal.calls (s.audioToPcm input p).after := by
    refine comesTo_pcmBehind fun q => ?_
    generalize (s.audioToPcm input p).result = r at h
    cases h <;> exact ⟨rfl, rfl, rfl⟩
  have hencode : (s.silkEncode (.ofBytes pcm) (s.audioToPcm input p).after).ComesTo encode.result
      encode.journal.calls encode.after := ⟨rfl, rfl, rfl⟩
  refine (hpcm.bind_ok ?_).within _
  exact hencode.bind_answer (g := record pcm) fun _ _ => ⟨rfl, rfl, rfl⟩

theorem encodeVoice_of_refused {e : ServiceError} (h : (s.audioToPcm input p).result = .error e)
    (he : e.reported? = none) :
    (s.encodeVoice input p).ComesTo (.error e) (s.audioToPcm input p).journal.calls
      (s.audioToPcm input p).after := by
  have hpcm : (s.pcmBehind input p).ComesTo (.error e) (s.audioToPcm input p).journal.calls
      (s.audioToPcm input p).after := by
    refine comesTo_pcmBehind fun q => ?_
    simp only [h, recovered, he]
    exact ⟨rfl, rfl, rfl⟩
  exact (hpcm.bind_error _).within _

theorem encodeVoice_of_panic (h : (s.audioToPcm input p).result = .panic) :
    (s.encodeVoice input p).ComesTo .panic (s.audioToPcm input p).journal.calls
      (s.audioToPcm input p).after := by
  have hpcm : (s.pcmBehind input p).ComesTo .panic (s.audioToPcm input p).journal.calls
      (s.audioToPcm input p).after := by
    refine comesTo_pcmBehind fun q => ?_
    rw [h]
    exact ⟨rfl, rfl, rfl⟩
  exact (hpcm.bind_panic _).within _

theorem encodeVoice_eq_ok_iff {v : VoiceRecord} : (s.encodeVoice input p).result = .ok v ↔
    ∃ pcm silk, Recovers input (s.audioToPcm input p).result pcm ∧
      (s.silkEncode (.ofBytes pcm) (s.audioToPcm input p).after).result = .ok silk ∧
      record pcm silk = v := by
  constructor
  · intro h
    rcases recovers_cases input (s.audioToPcm input p).result with
      ⟨pcm, hpcm⟩ | ⟨e, he, hunreported⟩ | hpanic
    · rw [(encodeVoice_of_recovers hpcm).result, Attempt.map_eq_ok_iff] at h
      obtain ⟨silk, hsilk, hv⟩ := h
      exact ⟨pcm, silk, hpcm, hsilk, hv⟩
    · cases (encodeVoice_of_refused he hunreported).result.symm.trans h
    · cases (encodeVoice_of_panic hpanic).result.symm.trans h
  · rintro ⟨pcm, silk, hpcm, hsilk, rfl⟩
    rw [(encodeVoice_of_recovers hpcm).result, Attempt.map_eq_ok_iff]
    exact ⟨silk, hsilk, rfl⟩

theorem encodeVoice_eq_error_iff {e : ServiceError} :
    (s.encodeVoice input p).result = .error e ↔
      (s.audioToPcm input p).result = .error e ∧ e.reported? = none ∨
        ∃ pcm, Recovers input (s.audioToPcm input p).result pcm ∧
          (s.silkEncode (.ofBytes pcm) (s.audioToPcm input p).after).result = .error e := by
  constructor
  · intro h
    rcases recovers_cases input (s.audioToPcm input p).result with
      ⟨pcm, hpcm⟩ | ⟨f, hf, hunreported⟩ | hpanic
    · rw [(encodeVoice_of_recovers hpcm).result, Attempt.map_eq_error_iff] at h
      exact .inr ⟨pcm, hpcm, h⟩
    · cases (encodeVoice_of_refused hf hunreported).result.symm.trans h
      exact .inl ⟨hf, hunreported⟩
    · cases (encodeVoice_of_panic hpanic).result.symm.trans h
  · rintro (⟨he, hunreported⟩ | ⟨pcm, hpcm, he⟩)
    · exact (encodeVoice_of_refused he hunreported).result
    · rw [(encodeVoice_of_recovers hpcm).result, Attempt.map_eq_error_iff]
      exact he

/-! ## What the backend is asked for -/

/-- What the backend does when it is asked to decode the input. -/
def decoding (s : Service) (input : Buffer) (p : State) : Emission :=
  s.handle.backend.stream .audioToPcm p.past input.toBytes

/-- What the backend does when it is asked, after that, to encode PCM. -/
def encoding (s : Service) (input : Buffer) (p : State) (pcm : Bytes) : Emission :=
  s.handle.backend.stream .silkEncode (p.past ++ [.invoke .audioToPcm input.toBytes]) pcm

/-- The PCM that the backend is to encode, or would be: what it decoded from the input, or the input
if it reported that it could not. -/
inductive Obtains (s : Service) (input : Buffer) (p : State) : Bytes → Prop
  | decoded (admits : s.dispatcher.Admits (.ofBuffer input) p)
      (ending : (s.decoding input p).ending = .status Status.ok) :
      Obtains s input p (s.decoding input p).chunks.flatten
  | undecoded {code : Status} (admits : s.dispatcher.Admits (.ofBuffer input) p)
      (ending : (s.decoding input p).ending = .status code) (failed : code ≠ Status.ok) :
      Obtains s input p input.toBytes

theorem Obtains.admits {pcm : Bytes} (h : s.Obtains input p pcm) :
    s.dispatcher.Admits (.ofBuffer input) p := by
  cases h with
  | decoded admits | undecoded admits => exact admits

theorem recovers_iff {pcm : Bytes} :
    Recovers input (s.audioToPcm input p).result pcm ↔ s.Obtains input p pcm := by
  constructor
  · intro h
    generalize hresult : (s.audioToPcm input p).result = r at h
    cases h with
    | decoded =>
        obtain ⟨hadmits, hok, rfl⟩ := joined_eq_ok_iff.mp hresult
        exact .decoded hadmits hok
    | undecoded =>
        obtain ⟨hadmits, hcode, hfailed, -⟩ := joined_eq_reported_iff.mp hresult
        exact .undecoded hadmits hcode hfailed
  · intro h
    cases h with
    | decoded admits ending =>
        rw [show (s.audioToPcm input p).result = .ok _ from
          joined_eq_ok_iff.mpr ⟨admits, ending, rfl⟩]
        exact .decoded
    | undecoded admits ending failed =>
        rw [show (s.audioToPcm input p).result = .error _ from
          joined_eq_reported_iff.mpr ⟨admits, ending, failed, rfl, rfl⟩]
        exact .undecoded

/-- A decoding that was asked for leaves its call behind and nothing else. -/
theorem Obtains.asked {pcm : Bytes} (h : s.Obtains input p pcm) :
    (s.audioToPcm input p).journal.calls = [.invoke .audioToPcm input.toBytes] ∧
      (s.audioToPcm input p).after = p.called (.invoke .audioToPcm input.toBytes) :=
  (s.guarded_joined .audioToPcm input p).1 h.admits

/-- What was obtained is encoded if its length allows it. -/
theorem Obtains.admits_encoding_iff {pcm : Bytes} (h : s.Obtains input p pcm) :
    s.dispatcher.Admits (.ofBuffer (.ofBytes pcm)) (s.audioToPcm input p).after ↔
      (MediaBuffer.ofBuffer (.ofBytes pcm)).Accepted s.dispatcher.options.maxInputBytes := by
  rw [h.asked.2]
  exact ⟨fun hadmits => hadmits.accepted, fun haccepted => ⟨haccepted, h.admits.opened⟩⟩

theorem encoding_eq {pcm : Bytes} (h : s.Obtains input p pcm) :
    s.handle.backend.stream .silkEncode (s.audioToPcm input p).after.past
      (Buffer.ofBytes pcm).toBytes = s.encoding input p pcm := by
  rw [h.asked.2]
  rfl

end Run

/-! ## The composition -/

/-- A voice message becomes a record: what was obtained from it is encoded with success. -/
structure Becomes (s : Service) (input : Buffer) (p : State) (pcm : Bytes) (v : VoiceRecord) :
    Prop where
  obtained : s.Obtains input p pcm
  accepted : (MediaBuffer.ofBuffer (.ofBytes pcm)).Accepted s.dispatcher.options.maxInputBytes
  ending : (s.encoding input p pcm).ending = .status Status.ok
  silk : v.silk = (s.encoding input p pcm).chunks.flatten
  duration : v.duration = (PcmAudio.native pcm).duration

end Service

/-- The second backend does as the first one does in voice messages, but for the chunks that it
hands over in a decoding that fails. -/
structure Backend.FailsAlike (b b' : Backend) : Prop where
  ending : ∀ past bytes,
    (b'.stream .audioToPcm past bytes).ending = (b.stream .audioToPcm past bytes).ending
  decoded : ∀ past bytes, (b.stream .audioToPcm past bytes).ending = .status Status.ok →
    (b'.stream .audioToPcm past bytes).chunks = (b.stream .audioToPcm past bytes).chunks
  encoded : ∀ past bytes, b'.stream .silkEncode past bytes = b.stream .silkEncode past bytes

namespace Service

/-- The service on another backend. -/
def on (s : Service) (b : Backend) : Service :=
  ofHandle { s.handle with backend := b } s.dispatcher.options

/-- The encoding of a voice message is a decoding followed by at most one encoding. -/
structure Composed (s : Service) (input : Buffer) (p : State) (r : Ran ServiceError VoiceRecord) :
    Prop where
  /-- What was decoded is encoded, or the input if the codec reported a failure; and whatever comes
  of the encoding is the result, with the length of what was encoded. -/
  encoded : ∀ pcm, Recovers input (s.audioToPcm input p).result pcm →
    let encode := s.silkEncode (.ofBytes pcm) (s.audioToPcm input p).after
    r.ComesTo (encode.result.map fun silk => ⟨silk, (PcmAudio.native pcm).duration⟩)
      ((s.audioToPcm input p).journal.calls ++ encode.journal.calls) encode.after
  /-- Any other error of the decoding is the result, and the backend is not called again. -/
  refused : ∀ e, (s.audioToPcm input p).result = .error e → e.reported? = none →
    r.ComesTo (.error e) (s.audioToPcm input p).journal.calls (s.audioToPcm input p).after
  panicked : (s.audioToPcm input p).result = .panic →
    r.ComesTo .panic (s.audioToPcm input p).journal.calls (s.audioToPcm input p).after
  /-- The backend is asked to decode the input, and then at most to encode what was obtained. -/
  asks : s.dispatcher.Admits (.ofBuffer input) p →
    r.journal.calls = [.invoke .audioToPcm input.toBytes] ∨
      ∃ pcm, s.Obtains input p pcm ∧
        r.journal.calls = [.invoke .audioToPcm input.toBytes, .invoke .silkEncode pcm]
  silent : ¬ s.dispatcher.Admits (.ofBuffer input) p → r.journal.calls = [] ∧ r.after = p
  recorded : ∀ v, r.result = .ok v ↔ ∃ pcm, s.Becomes input p pcm v
  /-- What a failed decoding handed over makes no difference. -/
  deaf : ∀ b, s.handle.backend.FailsAlike b →
    ((s.on b).encodeVoice input p).ComesTo r.result r.journal.calls r.after

section Composed

variable (s : Service) (input : Buffer) (p : State)

theorem asks_encodeVoice (hadmits : s.dispatcher.Admits (.ofBuffer input) p) :
    (s.encodeVoice input p).journal.calls = [.invoke .audioToPcm input.toBytes] ∨
      ∃ pcm, s.Obtains input p pcm ∧
        (s.encodeVoice input p).journal.calls =
          [.invoke .audioToPcm input.toBytes, .invoke .silkEncode pcm] := by
  obtain ⟨hcalls, -⟩ := (s.guarded_joined .audioToPcm input p).1 hadmits
  rcases recovers_cases input (s.audioToPcm input p).result with
    ⟨pcm, hpcm⟩ | ⟨e, he, hunreported⟩ | hpanic
  · rw [(encodeVoice_of_recovers hpcm).calls, show (s.audioToPcm input p).journal.calls = _ from
      hcalls]
    obtain ⟨hasks, hsilent⟩ :=
      s.guarded_joined .silkEncode (.ofBytes pcm) (s.audioToPcm input p).after
    by_cases hencode : s.dispatcher.Admits (.ofBuffer (.ofBytes pcm)) (s.audioToPcm input p).after
    · refine .inr ⟨pcm, recovers_iff.mp hpcm, ?_⟩
      exact congrArg _ (hasks hencode).1
    · refine .inl ?_
      exact congrArg _ (hsilent hencode).1
  · exact .inl ((encodeVoice_of_refused he hunreported).calls.trans hcalls)
  · exact .inl ((encodeVoice_of_panic hpanic).calls.trans hcalls)

theorem silent_encodeVoice (hrefused : ¬ s.dispatcher.Admits (.ofBuffer input) p) :
    (s.encodeVoice input p).journal.calls = [] ∧ (s.encodeVoice input p).after = p := by
  obtain ⟨hcalls, hafter⟩ := (s.guarded_joined .audioToPcm input p).2 hrefused
  rcases recovers_cases input (s.audioToPcm input p).result with
    ⟨pcm, hpcm⟩ | ⟨e, he, hunreported⟩ | hpanic
  · exact absurd (recovers_iff.mp hpcm).admits hrefused
  · have hran := encodeVoice_of_refused he hunreported
    exact ⟨hran.calls.trans hcalls, hran.after.trans hafter⟩
  · have hran := encodeVoice_of_panic hpanic
    exact ⟨hran.calls.trans hcalls, hran.after.trans hafter⟩

theorem recorded_encodeVoice (v : VoiceRecord) :
    (s.encodeVoice input p).result = .ok v ↔ ∃ pcm, s.Becomes input p pcm v := by
  rw [encodeVoice_eq_ok_iff]
  refine exists_congr fun pcm => ?_
  constructor
  · rintro ⟨silk, hpcm, hsilk, rfl⟩
    have hobtains := recovers_iff.mp hpcm
    obtain ⟨hadmits, hok, rfl⟩ := joined_eq_ok_iff.mp hsilk
    rw [encoding_eq hobtains] at hok ⊢
    exact ⟨hobtains, hobtains.admits_encoding_iff.mp hadmits, hok, rfl, rfl⟩
  · rintro ⟨hobtains, haccepted, hok, hsilk, hduration⟩
    refine ⟨v.silk, recovers_iff.mpr hobtains, ?_, ?_⟩
    · refine joined_eq_ok_iff.mpr ⟨hobtains.admits_encoding_iff.mpr haccepted, ?_⟩
      rw [encoding_eq hobtains]
      exact ⟨hok, hsilk⟩
    · rw [record, ← hduration]

/-! ### Chunks of a failed decoding -/

section Deaf

variable {s : Service} {b : Backend}

theorem parallel_joined_on (op : Streaming) {E : CodecError → CodecError → Prop}
    {F : ServiceError → ServiceError → Prop} (hE : ∀ e, E e e)
    (hF : ∀ e f, E e f → F (.codec e) (.codec f))
    (hmatch : (Dispatch.chunks op.operation).Matches E Eq s.dispatcher (s.on b).dispatcher)
    (input : Buffer) : Run.Parallel Eq F Eq (s.joined op input) ((s.on b).joined op input) := by
  have hdispatch : Run.Parallel Eq F Eq (s.dispatch op input) ((s.on b).dispatch op input) :=
    parallel_dispatch rfl rfl hE hF hmatch
  exact hdispatch.map fun _ _ h => congrArg ChunkStream.concat h

variable (hb : s.handle.backend.FailsAlike b)
include hb

theorem matches_decoding : (Dispatch.chunks .audioToPcm).Matches CodecError.SameButChunks Eq
    s.dispatcher (s.on b).dispatcher := by
  refine ⟨fun _ _ h => (nomatch h), ?_⟩
  intro past bytes a h
  obtain rfl := Option.some.inj h
  refine ⟨_, rfl, hb.ending past bytes, ?_⟩
  intro code hcode
  by_cases hok : code = Status.ok
  · rw [Dispatch.concluded, Dispatch.concluded, if_pos hok, if_pos hok]
    rw [hok] at hcode
    exact .ok (congrArg ChunkStream.mk (hb.decoded past bytes hcode).symm)
  · rw [Dispatch.concluded, Dispatch.concluded, if_neg hok, if_neg hok]
    exact .error rfl

theorem matches_encoding : (Dispatch.chunks .silkEncode).Matches Eq Eq s.dispatcher
    (s.on b).dispatcher := by
  refine ⟨fun _ _ h => (nomatch h), ?_⟩
  intro past bytes a h
  obtain rfl := Option.some.inj h
  have hanswer : (b.stream .silkEncode past bytes).answer =
      (s.handle.backend.stream .silkEncode past bytes).answer :=
    congrArg Emission.answer (hb.encoded past bytes)
  refine ⟨_, congrArg some hanswer, rfl, fun code _ => ?_⟩
  exact .refl (fun _ => rfl) (fun _ => rfl) _

theorem parallel_encodeVoice (input : Buffer) :
    Run.Parallel Eq Eq Eq (s.encodeVoice input) ((s.on b).encodeVoice input) := by
  have hP := Run.Parallel.congruence (S := Eq) (E := Eq) fun _ _ h => congrArg _ h
  -- The errors of the decodings differ in their chunks; those that differ are not passed on.
  have hcodec : ∀ e f : CodecError, e.SameButChunks f →
      ServiceError.SameButChunks (.codec e) (.codec f) := fun _ _ h => congrArg ServiceError.codec h
  have hdecode : Run.Parallel Eq ServiceError.SameButChunks Eq (s.audioToPcm input)
      ((s.on b).audioToPcm input) :=
    parallel_joined_on .audioToPcm CodecError.SameButChunks.refl hcodec (matches_decoding hb) input
  have hpcm : Run.Parallel Eq Eq Eq (s.pcmBehind input) ((s.on b).pcmBehind input) := by
    rw [pcmBehind_eq, pcmBehind_eq]
    exact .recovered (fun _ _ h => h.reported?_eq) (fun _ _ h => h.eq_of_unreported) input hdecode
  refine hP.encodeVoice hpcm fun pcm => ?_
  exact parallel_joined_on .silkEncode (fun _ => rfl) (fun _ _ h => congrArg _ h)
    (matches_encoding hb) pcm

end Deaf

/-- A voice message is decoded once, and what came of it is encoded at most once. -/
theorem composed_encodeVoice : s.Composed input p (s.encodeVoice input p) where
  encoded _ hpcm := encodeVoice_of_recovers hpcm
  refused _ he hunreported := encodeVoice_of_refused he hunreported
  panicked hpanic := encodeVoice_of_panic hpanic
  asks := s.asks_encodeVoice input p
  silent := s.silent_encodeVoice input p
  recorded := s.recorded_encodeVoice input p
  deaf _ hb := by
    obtain ⟨hresult, hcalls, hafter⟩ := parallel_encodeVoice hb input p p rfl
    exact ⟨hresult.eq.symm, hcalls, hafter.symm⟩

end Composed

end Service

/-! ## Whose input is refused -/

/-- A buffer is refused for this reason: nothing is in it, or more than is let through. -/
inductive Buffer.Unfit (limit : Option UInt64) (b : Buffer) : InputFault → Prop
  | empty (nothing : b.length = 0) : Unfit limit b .empty
  | native (exceeds : Status.maxLength < b.length) : Unfit limit b (.overNativeLimit b.length)
  | configured {max : UInt64} (limited : limit = some max) (fits : b.length ≤ Status.maxLength)
      (exceeds : max.toNat < b.length) :
      Unfit limit b (.overConfiguredLimit b.length max.toNat)

/-- A caller who claims the length that a buffer has is not refused for that. -/
theorem MediaBuffer.fault?_ofBuffer (b : Buffer) (limit : Option UInt64) :
    (ofBuffer b).fault? limit =
      if b.length = 0 then some .empty
      else if Status.maxLength < b.length then some (.overNativeLimit b.length)
      else limit.bind fun max =>
        if max.toNat < b.length then some (.overConfiguredLimit b.length max.toNat) else none := by
  have hempty : (ofBuffer b).isEmpty = true ↔ b.length = 0 := beq_iff_eq
  have hdeclared : ¬ (ofBuffer b).declaredLength ≠ (ofBuffer b).length := fun h => h rfl
  unfold fault?
  rw [if_neg hdeclared]
  simp only [hempty]
  cases limit <;> rfl

theorem Buffer.unfit_iff {limit : Option UInt64} {b : Buffer} {f : InputFault} :
    b.Unfit limit f ↔ (MediaBuffer.ofBuffer b).fault? limit = some f := by
  rw [MediaBuffer.fault?_ofBuffer]
  constructor
  · intro h
    cases h with
    | empty nothing => exact if_pos nothing
    | native exceeds => rw [if_neg (Nat.ne_of_gt (Nat.zero_lt_of_lt exceeds)), if_pos exceeds]
    | configured limited fits exceeds =>
        rw [if_neg (Nat.ne_of_gt (Nat.zero_lt_of_lt exceeds)), if_neg (Nat.not_lt.mpr fits), limited]
        exact if_pos exceeds
  · intro h
    split at h
    · next hnothing =>
      obtain rfl := Option.some.inj h
      exact .empty hnothing
    split at h
    · next hexceeds =>
      obtain rfl := Option.some.inj h
      exact .native hexceeds
    · next hfits =>
      obtain ⟨max, hlimit, hconfigured⟩ := Option.bind_eq_some_iff.mp h
      split at hconfigured
      · next hexceeds =>
        obtain rfl := Option.some.inj hconfigured
        exact .configured hlimit (Nat.not_lt.mp hfits) hexceeds
      · cases hconfigured

namespace Service

/-- When a caller is told that a voice message was refused, and what was called by then. -/
structure Refuses (s : Service) (input : Buffer) (p : State) (r : Ran ServiceError VoiceRecord) :
    Prop where
  /-- Either the caller's input is unfit, or what was decoded from it. -/
  refused : ∀ f, r.result = .error (.codec (.invalidInput f)) ↔
    input.Unfit s.dispatcher.options.maxInputBytes f ∨
      s.dispatcher.Admits (.ofBuffer input) p ∧ (s.decoding input p).ending = .status Status.ok ∧
        (Buffer.ofBytes (s.decoding input p).chunks.flatten).Unfit
          s.dispatcher.options.maxInputBytes f
  /-- If nothing is wrong with the caller's input, then the backend was asked before. -/
  asked : ∀ f, (MediaBuffer.ofBuffer input).Accepted s.dispatcher.options.maxInputBytes →
    r.result = .error (.codec (.invalidInput f)) →
      r.journal.calls = [.invoke .audioToPcm input.toBytes]

theorem encodeVoice_refuses (s : Service) (input : Buffer) (p : State) :
    s.Refuses input p (s.encodeVoice input p) where
  refused f := by
    rw [encodeVoice_eq_error_iff]
    constructor
    · rintro (⟨hrejected, -⟩ | ⟨pcm, hpcm, hrejected⟩)
      · exact .inl (Buffer.unfit_iff.mpr (joined_eq_rejected_iff.mp hrejected))
      · have hfault := joined_eq_rejected_iff.mp hrejected
        cases recovers_iff.mp hpcm with
        | decoded admits ending => exact .inr ⟨admits, ending, Buffer.unfit_iff.mpr hfault⟩
        | undecoded admits =>
            -- The input itself was accepted in the first call, and would be in the second.
            rw [Buffer.ofBytes_toBytes, MediaBuffer.accepted_iff.mp admits.accepted] at hfault
            cases hfault
    · rintro (hunfit | ⟨hadmits, hok, hunfit⟩)
      · exact .inl ⟨joined_eq_rejected_iff.mpr (Buffer.unfit_iff.mp hunfit), rfl⟩
      · refine .inr ⟨_, recovers_iff.mpr (.decoded hadmits hok), ?_⟩
        exact joined_eq_rejected_iff.mpr (Buffer.unfit_iff.mp hunfit)
  asked f haccepted h := by
    rcases encodeVoice_eq_error_iff.mp h with ⟨hrejected, -⟩ | ⟨pcm, hpcm, hrejected⟩
    · have hfault := joined_eq_rejected_iff.mp hrejected
      cases (MediaBuffer.accepted_iff.mp haccepted).symm.trans hfault
    · have hobtains := recovers_iff.mp hpcm
      have hrefused : ¬ s.dispatcher.Admits (.ofBuffer (.ofBytes pcm))
          (s.audioToPcm input p).after := by
        intro hadmits
        have hfault := joined_eq_rejected_iff.mp hrejected
        cases (MediaBuffer.accepted_iff.mp hadmits.accepted).symm.trans hfault
      rw [(encodeVoice_of_recovers hpcm).calls, hobtains.asked.1]
      exact congrArg _ ((s.guarded_joined .silkEncode (.ofBytes pcm) _).2 hrefused).1

end Service

/-- A codec that decodes its first input to nothing and each later one to six bytes, and encodes by
handing back what it is given. -/
def Backend.stuttering : Backend where
  stream
    | .audioToPcm, past, _ => { chunks := if past.isEmpty then [] else [[1, 2, 3, 4, 5, 6]] }
    | _, _, bytes => { chunks := [bytes] }
  firstFrame _ _ := {}
  getSize _ _ := {}

/-- Two bytes, of four that are let through, are refused as an empty input, and once more as an
input of six bytes. -/
theorem Service.encodeVoice_refuses_decoded :
    let s : Service := .ofHandle ⟨0, none, .stuttering⟩ ⟨.discard, some 4⟩
    let input : Buffer := .ofBytes [1, 2]
    let p : State :=
      .fresh ⟨"/", ⟨"linux", "x86_64"⟩, ⟨true, fun _ _ => ⟨[], .ok .stuttering⟩⟩⟩ .empty
    let first := s.encodeVoice input p
    let second := s.encodeVoice input first.after
    s.dispatcher.Admits (.ofBuffer input) p ∧ s.dispatcher.Admits (.ofBuffer input) first.after ∧
      first.result = .error (.codec (.invalidInput .empty)) ∧
      first.journal.calls = [.invoke .audioToPcm [1, 2]] ∧
      second.result = .error (.codec (.invalidInput (.overConfiguredLimit 6 4))) ∧
      second.journal.calls = [.invoke .audioToPcm [1, 2]] := by
  refine ⟨⟨?_, ?_⟩, ⟨?_, ?_⟩, ?_, ?_, ?_, ?_⟩ <;> decide +kernel

end MediaCodec
