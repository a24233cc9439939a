/-
Marshalling — from what an export does to what the caller of a dispatcher is answered.

An export calls back as it likes.  `Receipt.receive` is the receiver's side of one such call; the
calls that hand over a chunk are counted off by `CallbackInvocation.isChunk`, and a receiver that
never panics ends up with exactly their content, in order (`calm_foldl_receive`).  A dispatcher
collects chunks, which cannot panic, so this is the receiver that it passes.

An input that a dispatcher lets through fits a C `int`.  The two statuses that the library makes up
itself, for an input that does not fit and for a receiver that panicked, are therefore never made
up under a dispatcher, and a code that a caller sees is the code that the export returned.
-/

import MediaCodec.Native.Library
import MediaCodec.Proofs.Lifecycle

namespace MediaCodec

/-! ## The receiver of chunks -/

namespace CallbackInvocation

/-- Whether a call of the callback hands over a chunk: it names its user, points to data, and gives
a positive length. -/
def isChunk (i : CallbackInvocation) : Bool :=
  i.forUser && i.data.isSome && decide (0 < i.length.toInt)

/-- What the data pointer points to, as far as the length says. -/
def content (i : CallbackInvocation) : Bytes := (i.data.getD []).take i.length.toInt.toNat

/-- The chunks that calls of the callback hand over. -/
def chunks (is : List CallbackInvocation) : List Bytes := (is.filter isChunk).map content

theorem payload?_eq (i : CallbackInvocation) :
    i.payload? = if i.isChunk then some i.content else none := by
  obtain ⟨forUser, data, length⟩ := i
  have hlength : 0 < length ↔ 0 < length.toInt := Int32.lt_iff_toInt_lt
  cases data with
  | none => simp [payload?, isChunk]
  | some b => simp [payload?, isChunk, content, hlength]

theorem filterMap_payload? (is : List CallbackInvocation) :
    is.filterMap payload? = chunks is := by
  induction is with
  | nil => rfl
  | cons i rest ih =>
      rw [List.filterMap_cons, payload?_eq, ih]
      cases h : i.isChunk <;> simp [chunks, h]

end CallbackInvocation

namespace Receipt

/-- One call of the callback. -/
def receive (sink : Sink) (r : Receipt) (i : CallbackInvocation) : Receipt :=
  if i.isChunk then r.offer sink i.content else r

/-- Calls that hand over nothing make no difference to the receiver. -/
theorem foldl_receive (sink : Sink) (is : List CallbackInvocation) (r : Receipt) :
    is.foldl (receive sink) r = (CallbackInvocation.chunks is).foldl (offer sink) r := by
  induction is generalizing r with
  | nil => rfl
  | cons i rest ih =>
      rw [List.foldl_cons, ih, receive]
      cases h : i.isChunk <;> simp [CallbackInvocation.chunks, h]

/-- A receipt is what it holds, how often the receiver was called, and whether it panicked. -/
theorem ext_toList {r r' : Receipt} (hkept : r.kept.toList = r'.kept.toList)
    (hoffered : r.offered = r'.offered) (hpanicked : r.panicked = r'.panicked) : r = r' := by
  obtain ⟨kept, offered, panicked⟩ := r
  obtain ⟨kept', offered', panicked'⟩ := r'
  obtain rfl : kept = kept' := Array.toList_inj.mp hkept
  obtain rfl : offered = offered' := hoffered
  obtain rfl : panicked = panicked' := hpanicked
  rfl

/-- The receiver holds these chunks, which are all that it was offered, and it has not panicked. -/
structure Calm (r : Receipt) (chunks : List Bytes) : Prop where
  kept : r.kept.toList = chunks
  offered : r.offered = chunks.length
  panicked : r.panicked = false

/-- The chunks determine the receipt. -/
theorem Calm.eq {r r' : Receipt} {chunks : List Bytes} (h : r.Calm chunks) (h' : r'.Calm chunks) :
    r = r' :=
  ext_toList (h.kept.trans h'.kept.symm) (h.offered.trans h'.offered.symm)
    (h.panicked.trans h'.panicked.symm)

theorem calm_offer {r : Receipt} {chunks : List Bytes} (h : r.Calm chunks) (chunk : Bytes) :
    (r.offer .calm chunk).Calm (chunks ++ [chunk]) := by
  obtain ⟨hkept, hoffered, hpanicked⟩ := h
  have hoffer : r.offer .calm chunk =
      { r with kept := r.kept.push chunk, offered := r.offered + 1 } := by
    simp [offer, hpanicked, Sink.calm]
  rw [hoffer]
  refine ⟨?_, ?_, hpanicked⟩
  · simp [hkept]
  · simp [hoffered]

theorem calm_foldl_offer {r : Receipt} {held : List Bytes} (h : r.Calm held)
    (chunks : List Bytes) : (chunks.foldl (offer .calm) r).Calm (held ++ chunks) := by
  induction chunks generalizing r held with
  | nil =>
      rw [List.append_nil]
      exact h
  | cons chunk rest ih =>
      have hrest := ih (calm_offer h chunk)
      rw [List.append_assoc, List.singleton_append] at hrest
      exact hrest

theorem calm_ofChunks (chunks : List Bytes) : (ofChunks .calm chunks).Calm chunks :=
  calm_foldl_offer ⟨rfl, rfl, rfl⟩ chunks

/-- A receiver that never panics holds what the calls handed over, however they were mixed with
calls that hand over nothing. -/
theorem calm_foldl_receive (is : List CallbackInvocation) :
    (is.foldl (receive .calm) {}).Calm (CallbackInvocation.chunks is) := by
  rw [foldl_receive]
  exact calm_ofChunks _

end Receipt

/-- The reply of the frame export leaves this frame behind: a pointer that is not null, and a
positive size. -/
structure FrameReply.Leaves (r : FrameReply) (frame : Bytes) : Prop where
  content : ∃ memory, r.data = some memory ∧ frame = memory.take r.size.toInt.toNat
  size : 0 < r.size.toInt

namespace FrameReply

variable {r : FrameReply} {b : Bytes}

theorem payload?_eq_some_iff : r.payload? = some b ↔ r.status = Status.ok ∧ r.Leaves b := by
  obtain ⟨data, size, status⟩ := r
  have hsize : 0 < size ↔ 0 < size.toInt := Int32.lt_iff_toInt_lt
  cases data with
  | none =>
      refine iff_of_false (fun h => nomatch h) ?_
      rintro ⟨-, ⟨memory, hmemory, -⟩, -⟩
      cases hmemory
  | some memory =>
      change (if status = Status.ok ∧ 0 < size then some (memory.take size.toInt.toNat) else none)
        = some b ↔ _
      constructor
      · intro h
        by_cases hvalid : status = Status.ok ∧ 0 < size
        · rw [if_pos hvalid] at h
          exact ⟨hvalid.1, ⟨memory, rfl, (Option.some.inj h).symm⟩, hsize.mp hvalid.2⟩
        · rw [if_neg hvalid] at h
          cases h
      · rintro ⟨hok, ⟨_, ⟨⟩, rfl⟩, hpositive⟩
        exact if_pos ⟨hok, hsize.mpr hpositive⟩

theorem payload?_eq_none_iff : r.payload? = none ↔ r.status = Status.ok → ∀ b, ¬ r.Leaves b := by
  constructor
  · intro h hok b hb
    rw [payload?_eq_some_iff.mpr ⟨hok, hb⟩] at h
    cases h
  · intro h
    cases hp : r.payload? with
    | none => rfl
    | some b =>
        obtain ⟨hok, hb⟩ := payload?_eq_some_iff.mp hp
        exact absurd hb (h hok b)

end FrameReply

/-! ## The library as a backend

`NativeLibrary.backend` says what the library answers without running it.  This is what its entry
points come to when they are run with a receiver that never panics. -/

/-- A run of an entry point hands over what the emission says, and says what the emission says. -/
structure Emission.Matches (e : Emission) (r : Ran ε (Status × Receipt)) : Prop where
  answer : ∃ code receipt, e.ending = .status code ∧ receipt.Calm e.chunks ∧
    r.result = .ok (code, receipt)
  events : r.journal.events = e.events

namespace NativeLibrary

section Backend

variable (l : NativeLibrary) (s : Streaming) (past : List Call) (bytes : Bytes)

theorem backend_stream :
    l.backend.stream s past bytes =
      if bytes.length > Status.maxLength then { ending := .status Status.inputTooLarge }
      else emission (l.exports.stream s past bytes).1 (l.exports.stream s past bytes).2 := rfl

theorem backend_firstFrame :
    l.backend.firstFrame past bytes =
      if bytes.length > Status.maxLength then { ending := .status Status.inputTooLarge }
      else frameEmission (l.exports.videoFirstFrame past bytes) := rfl

theorem backend_getSize :
    l.backend.getSize past bytes =
      if bytes.length > Status.maxLength then { ending := .status Status.inputTooLarge }
      else
        { width := (l.exports.videoGetSize past bytes).width
          height := (l.exports.videoGetSize past bytes).height
          duration := (l.exports.videoGetSize past bytes).duration
          ending := .status (l.exports.videoGetSize past bytes).status } := rfl

end Backend

section Stream

variable {l : NativeLibrary} {s : Streaming} {input : Buffer} {p : State}
  {is : List CallbackInvocation} {code : Status} (sink : Sink)
  (hfits : input.length ≤ Status.maxLength)
  (h : l.exports.stream s p.past input.toBytes = (is, code))
include hfits h

/-- A streaming entry point calls its export once and passes the calls of the callback on to its
receiver one by one. -/
theorem stream_of_fits :
    (l.stream s sink input : Run ε _) p =
      ⟨.call (.invoke s.operation input.toBytes) ::
          if (is.foldl (Receipt.receive sink) {}).panicked then [.event sinkPanic] else [],
        .ok (streamStatus (is.foldl (Receipt.receive sink) {}).panicked code,
          is.foldl (Receipt.receive sink) {}),
        p.called (.invoke s.operation input.toBytes)⟩ := by
  rw [stream, if_neg (Nat.not_lt.mpr hfits), Run.get_bind_apply, Run.call_bind_apply, h,
    Receipt.foldl_receive, ← CallbackInvocation.filterMap_payload?]
  dsimp only
  rw [← Receipt.ofChunks]
  cases (Receipt.ofChunks sink (is.filterMap CallbackInvocation.payload?)).panicked <;> rfl

end Stream

section Matches

variable (l : NativeLibrary) (s : Streaming) (input : Buffer) (p : State)

/-- A streaming entry point hands over the chunks that the backend emits. -/
theorem matches_stream :
    (l.backend.stream s p.past input.toBytes).Matches ((l.stream s .calm input : Run ε _) p) := by
  rw [backend_stream, Buffer.length_toBytes]
  by_cases hlong : input.length > Status.maxLength
  · rw [stream, if_pos hlong, if_pos hlong]
    exact ⟨⟨_, _, rfl, ⟨rfl, rfl, rfl⟩, rfl⟩, rfl⟩
  · obtain ⟨is, code, h⟩ : ∃ is code, l.exports.stream s p.past input.toBytes = (is, code) :=
      ⟨_, _, rfl⟩
    have hcalm := Receipt.calm_foldl_receive is
    rw [if_neg hlong, h, stream_of_fits .calm (Nat.not_lt.mp hlong) h, hcalm.panicked]
    refine ⟨⟨_, _, rfl, ?_, rfl⟩, rfl⟩
    rw [emission, CallbackInvocation.filterMap_payload?]
    exact hcalm

theorem matches_firstFrame :
    (l.backend.firstFrame p.past input.toBytes).Matches
      ((l.firstFrame .calm input : Run ε _) p) := by
  rw [backend_firstFrame, Buffer.length_toBytes, firstFrame]
  by_cases hlong : input.length > Status.maxLength
  · rw [if_pos hlong, if_pos hlong]
    exact ⟨⟨_, _, rfl, ⟨rfl, rfl, rfl⟩, rfl⟩, rfl⟩
  · rw [if_neg hlong, if_neg hlong, Run.get_bind_apply, Run.call_bind_apply]
    dsimp only
    generalize l.exports.videoFirstFrame p.past input.toBytes = r
    cases hr : r.payload? with
    | some frame =>
        have hchunks : (frameEmission r).chunks = [frame] := by simp [frameEmission, hr]
        have hevents : (frameEmission r).events = [] := by simp [frameEmission, hr]
        have hcalm := Receipt.calm_ofChunks [frame]
        simp only [hcalm.panicked, Bool.false_eq_true, if_false]
        exact ⟨⟨_, _, rfl, hchunks ▸ hcalm, rfl⟩, hevents.symm⟩
    | none =>
        have hchunks : (frameEmission r).chunks = [] := by simp [frameEmission, hr]
        have hcalm : Receipt.Calm {} (frameEmission r).chunks := by
          rw [hchunks]
          exact ⟨rfl, rfl, rfl⟩
        by_cases hok : r.status = Status.ok
        · have hevents : (frameEmission r).events = [missingFrame] := by
            simp [frameEmission, hr, hok]
          simp only [hok, if_true]
          exact ⟨⟨_, _, congrArg _ hok, hcalm, rfl⟩, hevents.symm⟩
        · have hevents : (frameEmission r).events = [] := by simp [frameEmission, hr, hok]
          simp only [hok, if_false]
          exact ⟨⟨_, _, rfl, hcalm, rfl⟩, hevents.symm⟩

theorem result_getSize :
    ∃ code, (l.backend.getSize p.past input.toBytes).ending = .status code ∧
      ((l.getSize input : Run ε _) p).result =
        .ok (code, (l.backend.getSize p.past input.toBytes).metadata) := by
  rw [backend_getSize, Buffer.length_toBytes, getSize]
  by_cases hlong : input.length > Status.maxLength
  · rw [if_pos hlong, if_pos hlong]
    exact ⟨_, rfl, rfl⟩
  · rw [if_neg hlong, if_neg hlong]
    exact ⟨_, rfl, rfl⟩

end Matches

/-- With a receiver that never panics, every entry point returns the status of its export. -/
structure Unguarded (l : NativeLibrary) (input : Buffer) (p : State) : Prop where
  stream : ∀ s is code, l.exports.stream s p.past input.toBytes = (is, code) →
    (is.foldl (Receipt.receive .calm) {}).Calm (CallbackInvocation.chunks is) ∧
    ((l.stream s .calm input : Run CodecError _) p).result =
      .ok (code, is.foldl (Receipt.receive .calm) {})
  frame : ∃ receipt, receipt.panicked = false ∧
    ((l.firstFrame .calm input : Run CodecError _) p).result =
      .ok ((l.exports.videoFirstFrame p.past input.toBytes).status, receipt)
  size : ∃ m, ((l.getSize input : Run CodecError _) p).result =
    .ok ((l.exports.videoGetSize p.past input.toBytes).status, m)

theorem unguarded (l : NativeLibrary) {input : Buffer} (p : State)
    (hfits : input.length ≤ Status.maxLength) : l.Unguarded input p := by
  have hshort : ¬ input.toBytes.length > Status.maxLength := by
    rw [Buffer.length_toBytes]
    exact Nat.not_lt.mpr hfits
  refine ⟨fun s is code h => ?_, ?_, ?_⟩
  · obtain ⟨code', receipt, hending, hreceipt, hresult⟩ := (matches_stream l s input p).answer
    rw [backend_stream, if_neg hshort, h] at hending hreceipt
    rw [emission, CallbackInvocation.filterMap_payload?] at hreceipt
    obtain rfl := Ending.status.inj hending
    -- The entry point's receipt and the one folded up here hold the same chunks.
    have hcalm := Receipt.calm_foldl_receive is
    refine ⟨hcalm, ?_⟩
    rw [hresult, hreceipt.eq hcalm]
  · obtain ⟨code, receipt, hending, hcalm, hresult⟩ := (matches_firstFrame l input p).answer
    rw [backend_firstFrame, if_neg hshort] at hending
    obtain rfl := Ending.status.inj hending
    exact ⟨receipt, hcalm.panicked, hresult⟩
  · obtain ⟨code, hending, hresult⟩ := result_getSize l input p
    rw [backend_getSize, if_neg hshort] at hending
    obtain rfl := Ending.status.inj hending
    exact ⟨_, hresult⟩

/-! ## Under a dispatcher -/

/-- What a library answers an input that fits a C `int`. -/
def answer? (l : NativeLibrary) (past : List Call) (bytes : Bytes) : Dispatch → Option Answer
  | .chunks op => op.streaming?.map fun s =>
      let (is, code) := l.exports.stream s past bytes
      ⟨CallbackInvocation.chunks is, {}, .status code⟩
  | .frame =>
      let r := l.exports.videoFirstFrame past bytes
      some ⟨r.payload?.toList, {}, .status r.status⟩
  | .size =>
      let r := l.exports.videoGetSize past bytes
      some ⟨[], ⟨r.width.getD 0, r.height.getD 0, r.duration.getD 0⟩, .status r.status⟩

theorem answer?_backend {l : NativeLibrary} {past : List Call} {bytes : Bytes}
    (hfits : bytes.length ≤ Status.maxLength) (c : Dispatch) :
    c.answer? l.backend past bytes = l.answer? past bytes c := by
  have hshort := Nat.not_lt.mpr hfits
  cases c with
  | chunks op =>
      refine congrArg (op.streaming?.map ·) (funext fun s => ?_)
      rw [backend_stream, if_neg hshort, emission, CallbackInvocation.filterMap_payload?]
      rfl
  | frame =>
      refine congrArg some ?_
      rw [backend_firstFrame, if_neg hshort]
      rfl
  | size =>
      refine congrArg some ?_
      rw [backend_getSize, if_neg hshort]
      rfl

/-- The status that the export behind a call returns. -/
def returned (l : NativeLibrary) (past : List Call) (bytes : Bytes) : Dispatch → Option Status
  | .chunks op => op.streaming?.map fun s => (l.exports.stream s past bytes).2
  | .frame => some (l.exports.videoFirstFrame past bytes).status
  | .size => some (l.exports.videoGetSize past bytes).status

theorem map_ending_answer? (l : NativeLibrary) (past : List Call) (bytes : Bytes) (c : Dispatch) :
    (l.answer? past bytes c).map Answer.ending = (l.returned past bytes c).map Ending.status := by
  cases c with
  | chunks op =>
      rw [answer?, returned, Option.map_map, Option.map_map]
      rfl
  | frame => rfl
  | size => rfl

/-- What the caller of a dispatcher is answered is what the exports did. -/
structure Marshals (l : NativeLibrary) (d : Dispatcher) (input : MediaBuffer) (p : State) :
    Prop where
  /-- However a streaming export calls back, the caller gets what it handed over, in order; if it
  failed, as much of that as the options say. -/
  chunks : ∀ s is code, l.exports.stream s p.past input.data.toBytes = (is, code) →
    (d.dispatchChunks s.operation input p).result =
      if code = Status.ok then .ok ⟨CallbackInvocation.chunks is⟩
      else .error (.backend s.operation code
        (Dispatcher.kept d.options (CallbackInvocation.chunks is)))
  frame_ok : ∀ r, l.exports.videoFirstFrame p.past input.data.toBytes = r →
    ∀ b, (d.firstFrame input p).result = .ok b ↔ r.status = Status.ok ∧ r.Leaves b
  frame_missing : ∀ r, l.exports.videoFirstFrame p.past input.data.toBytes = r →
    r.status = Status.ok → (∀ b, ¬ r.Leaves b) →
    (d.firstFrame input p).result = .error (.malformedResult (.frameCount .videoFirstFrame 0))
  /-- After a failure nothing is read of what the export left behind. -/
  frame_failed : ∀ r, l.exports.videoFirstFrame p.past input.data.toBytes = r →
    r.status ≠ Status.ok →
    (d.firstFrame input p).result = .error (.backend .videoFirstFrame r.status [])
  size : ∀ r, l.exports.videoGetSize p.past input.data.toBytes = r →
    (d.videoSize input p).result =
      if r.status = Status.ok then
        .ok ⟨r.width.getD 0, r.height.getD 0, r.duration.getD 0⟩
      else .error (.backend .videoGetSize r.status [])
  /-- The code of a backend's failure was returned by the export. -/
  codes : ∀ (c : Dispatch) op code partials,
    (c.perform d input p).result = .error (.backend op code partials) →
    op = c.operation ∧ l.returned p.past input.data.toBytes c = some code
  /-- The library makes up no status of its own. -/
  guards : l.Unguarded input.data p
  /-- Each call asks the export once. -/
  asks : ∀ (c : Dispatch), l.returned p.past input.data.toBytes c ≠ none →
    (c.perform d input p).journal.calls = [.invoke c.operation input.data.toBytes]

section Dispatched

variable {l : NativeLibrary} {d : Dispatcher} {input : MediaBuffer} {p : State}
  (hbackend : d.handle.backend = l.backend) (hopen : p.hasClosed d.handle = false)
  (haccepted : input.Accepted d.options.maxInputBytes)
include hbackend hopen haccepted

/-- The exports are asked, and the dispatcher makes of it what it makes of any answer. -/
theorem course_perform {c : Dispatch} {a : Answer} {code : Status}
    (h : l.answer? p.past input.data.toBytes c = some a) (hcode : a.ending = .status code) :
    (c.perform d input p).Course (c.concluded d.options a code)
      ([.idle, .validating, .dispatched] ++
        (InvocationState.ofChunks a.chunks ++ [.ofResult (c.concluded d.options a code)]))
      [(some .dispatched, .invoke c.operation input.data.toBytes)]
      (p.called (.invoke c.operation input.data.toBytes)) := by
  refine Dispatch.course_of_status (MediaBuffer.accepted_iff.mp haccepted) hopen ?_ hcode
  rw [hbackend, answer?_backend haccepted.length_toBytes_le, h]

theorem result_dispatchChunks {s : Streaming} {is : List CallbackInvocation} {code : Status}
    (h : l.exports.stream s p.past input.data.toBytes = (is, code)) :
    (d.dispatchChunks s.operation input p).result =
      if code = Status.ok then .ok ⟨CallbackInvocation.chunks is⟩
      else .error (.backend s.operation code
        (Dispatcher.kept d.options (CallbackInvocation.chunks is))) := by
  have hanswer : l.answer? p.past input.data.toBytes (.chunks s.operation) =
      some ⟨CallbackInvocation.chunks is, {}, .status code⟩ := by
    rw [answer?, s.streaming?_operation, Option.map_some, h]
  exact (course_perform hbackend hopen haccepted hanswer rfl).result

theorem result_firstFrame {r : FrameReply}
    (h : l.exports.videoFirstFrame p.past input.data.toBytes = r) :
    (d.firstFrame input p).result =
      if r.status = Status.ok then Dispatcher.sole r.payload?.toList
      else .error (.backend .videoFirstFrame r.status []) := by
  have hanswer : l.answer? p.past input.data.toBytes .frame =
      some ⟨r.payload?.toList, {}, .status r.status⟩ := by
    rw [answer?, h]
  have hresult := (course_perform hbackend hopen haccepted hanswer rfl).result
  by_cases hok : r.status = Status.ok
  · rw [Dispatch.concluded, if_pos hok] at hresult
    rw [if_pos hok]
    exact hresult
  · have hnone : r.payload? = none := FrameReply.payload?_eq_none_iff.mpr fun h => absurd h hok
    rw [Dispatch.concluded, if_neg hok, hnone, Option.toList_none, Dispatcher.kept_nil] at hresult
    rw [if_neg hok]
    exact hresult

theorem result_videoSize {r : SizeReply}
    (h : l.exports.videoGetSize p.past input.data.toBytes = r) :
    (d.videoSize input p).result =
      if r.status = Status.ok then .ok ⟨r.width.getD 0, r.height.getD 0, r.duration.getD 0⟩
      else .error (.backend .videoGetSize r.status []) := by
  have hanswer : l.answer? p.past input.data.toBytes .size =
      some ⟨[], ⟨r.width.getD 0, r.height.getD 0, r.duration.getD 0⟩, .status r.status⟩ := by
    rw [answer?, h]
  have hresult := (course_perform hbackend hopen haccepted hanswer rfl).result
  rw [Dispatch.concluded, Dispatcher.kept_nil] at hresult
  exact hresult

theorem code_of_backend {c : Dispatch} {op : Operation} {code : Status} {partials : List Bytes}
    (h : (c.perform d input p).result = .error (.backend op code partials)) :
    op = c.operation ∧ l.returned p.past input.data.toBytes c = some code := by
  have hending := l.map_ending_answer? p.past input.data.toBytes c
  cases hanswer : l.answer? p.past input.data.toBytes c with
  | none =>
      -- The operation does not stream, and the error is another one.
      rw [← answer?_backend haccepted.length_toBytes_le, ← hbackend] at hanswer
      have hresult := (Dispatch.course_of_unanswered (MediaBuffer.accepted_iff.mp haccepted) hopen
        hanswer).result
      rw [h] at hresult
      cases hresult
  | some a =>
      rw [hanswer] at hending
      obtain ⟨returned, hreturned, hcode⟩ := Option.map_eq_some_iff.mp hending.symm
      have hresult := (course_perform hbackend hopen haccepted hanswer hcode.symm).result
      obtain ⟨rfl, rfl⟩ := Dispatch.backend_of_concluded (hresult.symm.trans h)
      exact ⟨rfl, hreturned⟩

theorem asks_once {c : Dispatch} (h : l.returned p.past input.data.toBytes c ≠ none) :
    (c.perform d input p).journal.calls = [.invoke c.operation input.data.toBytes] := by
  obtain ⟨code, hcode⟩ := Option.ne_none_iff_exists'.mp h
  have hending := l.map_ending_answer? p.past input.data.toBytes c
  rw [hcode] at hending
  obtain ⟨a, ha, hstatus⟩ := Option.map_eq_some_iff.mp hending
  exact (course_perform hbackend hopen haccepted ha hstatus).calls

/-- Under a dispatcher that lets an input through to a library, the library's answers arrive as
they were made. -/
theorem marshals_dispatched : l.Marshals d input p where
  chunks s is code h := result_dispatchChunks hbackend hopen haccepted h
  frame_ok r h b := by
    rw [result_firstFrame hbackend hopen haccepted h]
    by_cases hok : r.status = Status.ok
    · rw [if_pos hok, Dispatcher.sole_toList, FrameReply.payload?_eq_some_iff]
    · rw [if_neg hok]
      exact iff_of_false (fun h => nomatch h) fun h => hok h.1
  frame_missing r h hok hnone := by
    have hpayload : r.payload? = none := FrameReply.payload?_eq_none_iff.mpr fun _ => hnone
    rw [result_firstFrame hbackend hopen haccepted h, if_pos hok, hpayload]
    rfl
  frame_failed r h hfailed := by
    rw [result_firstFrame hbackend hopen haccepted h, if_neg hfailed]
  size r h := result_videoSize hbackend hopen haccepted h
  codes c op code partials h := code_of_backend hbackend hopen haccepted h
  guards := l.unguarded p haccepted.native
  asks c hc := asks_once hbackend hopen haccepted hc

end Dispatched

/-- A library whose streaming exports call back in every useless way, hand over one chunk, and then
fail; a frame is left behind with a failure, and of the metadata only the height is written. -/
def unruly : NativeLibrary where
  path := "/lib/linux-x64/liblagrangecodec.so"
  exports :=
    { audioToPcm := fun _ _ => (calls, 7)
      silkDecode := fun _ _ => (calls, 7)
      silkEncode := fun _ _ => (calls, Status.sinkPanicked)
      videoFirstFrame := fun _ _ => ⟨some [1, 2, 3], 3, 7⟩
      videoGetSize := fun _ _ => ⟨none, some 9, none, Status.ok⟩ }
where
  calls : List CallbackInvocation :=
    [⟨false, some [1], 1⟩, ⟨true, none, 1⟩, ⟨true, some [2, 3, 4], 2⟩, ⟨true, some [5], -1⟩]

theorem marshals_dispatched_unruly :
    let d : Dispatcher := ⟨⟨0, none, unruly.backend⟩, { partialResults := .preserve }⟩
    let p : State := .fresh ⟨"/", ⟨"linux", "x86_64"⟩, ⟨false, fun _ _ => ⟨[], .ok unruly.backend⟩⟩⟩
      .empty
    let input : MediaBuffer := .ofBuffer (.ofBytes [1, 2])
    d.handle.backend = unruly.backend ∧ p.hasClosed d.handle = false ∧
      input.Accepted d.options.maxInputBytes ∧ unruly.Marshals d input p := by
  intro d p input
  have haccepted : input.Accepted d.options.maxInputBytes := by decide
  exact ⟨rfl, rfl, haccepted, marshals_dispatched rfl rfl haccepted⟩

end NativeLibrary

end MediaCodec
