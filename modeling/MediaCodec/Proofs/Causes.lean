/-
Causes — what a C caller can tell from the status of a codec call.

A call stems from one of eight causes, and each cause has a status.  Of the causes that can hold, no
two have the same one: the statuses of this side are distinct, and the codec's own are neither
success nor reserved (`Cause.ofStatus_status`).  So two things are enough.  A cause that holds gives
its status (`returns_of_stems`), and some cause always holds (`exists_stems`).  Each status is then
returned for its cause and for no other (`status_eq_iff`).

That some cause always holds needs the process as it can be.  A service that is not found is
refused with the error that the process remembers, and that could be any error; but only a failure
to open is ever remembered (`State.Honest`), so that it is the machine that is unserved, or the
library that could not be loaded.
-/

import MediaCodec.Proofs.Lifecycle
import MediaCodec.Proofs.Refinement
import MediaCodec.Proofs.WriteOnce

namespace MediaCodec

/-! ## Failures to open -/

/-- The errors that opening a codec ends with. -/
inductive CodecError.Unopened : CodecError → Prop
  | host (h : Host) (unserved : Platform.resolve? h.os h.arch = none) :
      Unopened (.unsupportedPlatform h.os h.arch)
  | load (fault : LoadFault) : Unopened (.backendLoad fault)

theorem Config.unopened_of_outcome {c : Config} {p : State} {e : CodecError}
    (h : c.outcome p = .error e) : e.Unopened := by
  cases hid : Platform.resolve? c.host.os c.host.arch with
  | none =>
      rw [outcome, target_of_unresolved hid] at h
      obtain rfl := Except.error.inj h
      exact .host c.host hid
  | some id =>
      cases hartifact : c.settings.artifact p.machine.cwd id with
      | error f =>
          rw [outcome, target_of_unplaced hid hartifact] at h
          obtain rfl := Except.error.inj h
          exact .load f
      | ok a =>
          simp only [outcome, target_of_placed hid hartifact] at h
          cases hload : (c.loader.load p.past a.path).result with
          | error f =>
              rw [hload] at h
              obtain rfl := Except.error.inj h
              exact .load _
          | ok backend =>
              rw [hload] at h
              cases h

theorem Dispatcher.unopened_of_outcome {config : Except SetupError Config} {p : State}
    {e : CodecError} (h : outcome config p = .error e) : e.Unopened := by
  cases config with
  | error f =>
      obtain rfl := Except.error.inj h
      exact .load _
  | ok c =>
      cases hc : c.outcome p with
      | ok handle =>
          rw [outcome, hc] at h
          cases h
      | error f =>
          rw [outcome, hc] at h
          obtain rfl := Except.error.inj h
          exact Config.unopened_of_outcome hc

/-- An error that a process remembers is a failure to open. -/
def State.Honest (p : State) : Prop := ∀ e, p.stored = some (.error e) → e.Unopened

theorem Step.honest_perform (k : Step) (p : State) (h : p.Honest) :
    (k.perform p).after.Honest := by
  intro e he
  have hmoves := k.moves_perform p
  cases hp : p.stored with
  | some r =>
      rw [hmoves.stored_of_stored hp] at he
      obtain rfl := Option.some.inj he
      exact h e hp
  | none =>
      obtain ⟨config, -, hr⟩ := hmoves.outcome_of_stored hp he
      exact Dispatcher.unopened_of_outcome hr.symm

namespace State

variable {p : State}

/-- Whoever finds no service in an honest process is told of a failure to open. -/
theorem Honest.unopened (h : p.Honest) {e : ServiceError}
    (he : p.served = .error e) : ∃ f, e = .codec f ∧ f.Unopened := by
  cases hslot : p.slot with
  | some s =>
      rw [served_of_some hslot] at he
      cases he
  | none =>
      rw [served_of_none hslot] at he
      cases hshared : p.shared (Service.environmentConfig p) with
      | ok d =>
          rw [hshared] at he
          cases he
      | error f =>
          rw [hshared] at he
          obtain rfl := Except.error.inj he
          refine ⟨f, rfl, ?_⟩
          cases hstored : p.stored with
          | some r =>
              rw [shared, ← stored, hstored] at hshared
              obtain rfl : r = .error f := hshared
              exact h f hstored
          | none =>
              rw [shared, ← stored, hstored] at hshared
              exact Dispatcher.unopened_of_outcome hshared

theorem hasClosed_serving (p : State) (h : Handle) : p.serving.hasClosed h = p.hasClosed h := by
  rw [hasClosed, hasClosed, (spares_serving p).closed]

end State

theorem Boundary.served_of_unfound {p : State} {e : ServiceError}
    (h : (Boundary.service p).result = .error e) : p.served = .error e := by
  have hresult := (Boundary.service_comesTo p).result.symm.trans h
  cases hserved : p.served with
  | error f =>
      rw [hserved] at hresult
      cases hresult
      rfl
  | ok s =>
      rw [hserved] at hresult
      cases hresult

/-! ## The caller's input -/

namespace ForeignInput

/-- The caller's side of the contract: the pointer is null, or it points to as many bytes as the
length says. -/
def Readable (i : ForeignInput) : Prop := ∀ b, i.data = some b → i.length.toInt ≤ b.length

/-- Why an input is refused. -/
inductive Refused (i : ForeignInput) (limit : Option UInt64) : Prop
  | null (data : i.data = none)
  | length (length : i.length.toInt ≤ 0)
  | limit (max : UInt64) (limit : limit = some max) (exceeds : max.toNat < i.length.toInt)

variable {i : ForeignInput} {limit : Option UInt64}

/-- Whatever a C caller passes fits a C `int`. -/
theorem length_bytes_le (i : ForeignInput) : i.bytes.length ≤ Status.maxLength := by
  have hint := i.length.toInt_lt
  unfold bytes
  cases i.data with
  | none => exact Nat.zero_le _
  | some b =>
      have htake := List.length_take_le i.length.toInt.toNat b.toBytes
      refine Nat.le_trans htake ?_
      rw [Status.maxLength]
      omega

theorem length_bytes (h : i.Readable) {b : Buffer} (hb : i.data = some b) :
    i.bytes.length = i.length.toInt.toNat := by
  have hlength := h b hb
  rw [bytes, hb, List.length_take, Buffer.length_toBytes]
  omega

theorem accepted_iff (h : i.Readable) :
    (MediaBuffer.ofBuffer (.ofBytes i.bytes)).Accepted limit ↔ ¬ i.Refused limit := by
  cases hdata : i.data with
  | none =>
      refine iff_of_false ?_ (not_not_intro (.null hdata))
      intro haccepted
      have hempty : i.bytes = [] := by rw [bytes, hdata]
      exact absurd haccepted.nonempty (by simp [MediaBuffer.ofBuffer, MediaBuffer.length, hempty])
  | some b =>
      have hlength : (MediaBuffer.ofBuffer (.ofBytes i.bytes)).length = i.length.toInt.toNat :=
        length_bytes h hdata
      constructor
      · rintro ⟨hpos, -, -, hconfigured⟩ (hnull | hnegative | ⟨max, hlimit, hover⟩)
        · rw [hdata] at hnull
          cases hnull
        · omega
        · have hmax := hconfigured max hlimit
          omega
      · intro haccepted
        have hpositive : 0 < i.length.toInt := Int.not_le.mp fun h => haccepted (.length h)
        refine ⟨by omega, rfl, i.length_bytes_le, ?_⟩
        intro max hlimit
        have hmax := Int.not_lt.mp fun h => haccepted (.limit max hlimit h)
        omega

end ForeignInput

/-! ## Causes and their statuses -/

/-- What a codec call can stem from. -/
inductive Cause
  /-- A pointer was null, or the input was refused. -/
  | input
  /-- No codec is built for the machine. -/
  | host
  /-- The codec could not be loaded or configured. -/
  | load
  /-- The codec succeeded with a result that is of no use. -/
  | result
  | closed
  | panic
  /-- The codec failed with a status of its own. -/
  | backend (code : Status)
  | success
  deriving DecidableEq, Repr

namespace Cause

def status : Cause → Status
  | input => Status.invalidInput
  | host => Status.unsupportedPlatform
  | load => Status.backendLoad
  | result => Status.malformedResult
  | closed => Status.backendClosed
  | panic => Status.internal
  | backend code => code
  | success => Status.ok

/-- Whether the backend was called before the cause set in. -/
def asks : Cause → Bool
  | result | panic | backend _ | success => true
  | input | host | load | closed => false

/-- The cause that a status tells of. -/
def ofStatus (s : Status) : Cause :=
  if s = Status.ok then success
  else if s.isReserved = false then backend s
  else if s = Status.invalidInput then input
  else if s = Status.unsupportedPlatform then host
  else if s = Status.backendLoad then load
  else if s = Status.malformedResult then result
  else if s = Status.backendClosed then closed
  else panic

/-- A codec's own status is a failure, and it is not reserved. -/
def Proper : Cause → Prop
  | backend code => code ≠ Status.ok ∧ code.isReserved = false
  | _ => True

theorem ofStatus_status {x : Cause} (h : x.Proper) : ofStatus x.status = x := by
  cases x with
  | backend code =>
      obtain ⟨hfailure, hown⟩ := h
      rw [status, ofStatus, if_neg hfailure, if_pos hown]
  | input | host | load | result | closed | panic | success => rfl

theorem eq_of_status_eq {x y : Cause} (hx : x.Proper) (hy : y.Proper) (h : x.status = y.status) :
    x = y := by
  rw [← ofStatus_status hx, h, ofStatus_status hy]

/-- Every other cause has one of six of the reserved statuses. -/
theorem isReserved_status {x : Cause} (hsuccess : x ≠ success) (hbackend : ∀ code, x ≠ backend code) :
    x.status ∈ [Status.invalidInput, Status.unsupportedPlatform, Status.backendLoad,
      Status.malformedResult, Status.backendClosed, Status.internal] := by
  cases x with
  | backend code => exact absurd rfl (hbackend code)
  | success => exact absurd rfl hsuccess
  | input | host | load | result | closed | panic => decide

end Cause

/-- A codec whose own statuses are not reserved, for any input that fits a C `int`. -/
def Backend.KeepsOut (b : Backend) : Prop :=
  ∀ (d : Dispatch) past bytes a code, bytes.length ≤ Status.maxLength →
    d.answer? b past bytes = some a → a.ending = .status code → code.isReserved = false

/-! ## What a call stems from -/

/-- Whether a C caller can use what the codec handed over: of a frame there has to be one, and its
length has to fit a C `int`. -/
inductive CodecCall.Unusable : CodecCall → Answer → Prop
  | count {input : ForeignInput} {slots : FrameSlots} {a : Answer} (count : a.chunks.length ≠ 1) :
      Unusable (firstFrame input slots) a
  | long {input : ForeignInput} {slots : FrameSlots} {a : Answer} {b : Bytes}
      (only : a.chunks = [b]) (length : Status.maxLength < b.length) :
      Unusable (firstFrame input slots) a

namespace CodecCall

/-- What a call asks of a dispatcher. -/
def dispatch : CodecCall → Dispatch
  | stream op _ _ => .chunks op.operation
  | firstFrame _ _ => .frame
  | getSize _ _ => .size

/-- The call has its pointers, and finds this service. -/
structure Finds (c : CodecCall) (p : State) (s : Service) : Prop where
  pointers : c.lacksPointer = false
  found : (Boundary.service p).result = .ok s

/-- The call gets through to the backend of this service. -/
structure Reaches (c : CodecCall) (p : State) (s : Service) : Prop extends c.Finds p s where
  input : ¬ c.input.Refused s.dispatcher.options.maxInputBytes
  opened : p.hasClosed s.handle = false

/-- The backend is called, and answers so. -/
def Answers (c : CodecCall) (p : State) (a : Answer) : Prop :=
  ∃ s, c.Reaches p s ∧
    c.dispatch.answer? s.handle.backend (Boundary.service p).after.past c.input.bytes = some a

/-- The call stems from a cause. -/
def Stems (c : CodecCall) (p : State) : Cause → Prop
  | .input =>
    c.lacksPointer = true ∨
      ∃ s, c.Finds p s ∧ c.input.Refused s.dispatcher.options.maxInputBytes
  | .host =>
    c.lacksPointer = false ∧ ∃ h : Host, Platform.resolve? h.os h.arch = none ∧
      (Boundary.service p).result = .error (.codec (.unsupportedPlatform h.os h.arch))
  | .load =>
    c.lacksPointer = false ∧ ∃ fault,
      (Boundary.service p).result = .error (.codec (.backendLoad fault))
  | .result => ∃ a, c.Answers p a ∧ a.ending = .status Status.ok ∧ c.Unusable a
  | .closed =>
    ∃ s, c.Finds p s ∧ ¬ c.input.Refused s.dispatcher.options.maxInputBytes ∧
      p.hasClosed s.handle = true
  | .panic => ∃ a, c.Answers p a ∧ a.ending = .panic
  | .backend code => ∃ a, c.Answers p a ∧ a.ending = .status code ∧ code ≠ Status.ok
  | .success => ∃ a, c.Answers p a ∧ a.ending = .status Status.ok ∧ ¬ c.Unusable a

/-! ### The status of what a dispatcher answers -/

/-- The status of a call whose dispatcher answered so. -/
def verdict : (c : CodecCall) → Attempt CodecError c.dispatch.Output → Status
  | _, .error e => e.status
  | _, .panic => Status.internal
  | firstFrame _ _, .ok b =>
    if List.length b ≤ Status.maxLength then Status.ok else Status.malformedResult
  | _, .ok _ => Status.ok

section Method

variable (c : CodecCall) (s : Service) (q : State)

/-- What the method behind a call comes to is what the dispatcher answers; a frame that is too long
apart, it is only told in other words. -/
theorem status_method :
    Status.ofAttempt (c.method s q).result =
      c.verdict (c.dispatch.perform s.dispatcher (.ofBuffer (.ofBytes c.input.bytes)) q).result := by
  cases c with
  | stream op input hasCallback =>
      have hverdict : ∀ r : Attempt CodecError ChunkStream, Status.ofAttempt
          (r.mapError ServiceError.codec) = verdict (stream op input hasCallback) r := by
        intro r
        cases r <;> rfl
      rw [method_stream]
      exact hverdict _
  | firstFrame input slots =>
      have hservice : (s.videoFirstFrame (.ofBytes input.bytes) q).result =
          (s.dispatcher.firstFrame (.ofBuffer (.ofBytes input.bytes)) q).result.mapError .codec := rfl
      show _ = verdict (firstFrame input slots)
        (s.dispatcher.firstFrame (.ofBuffer (.ofBytes input.bytes)) q).result
      rw [method_firstFrame]
      cases hr : (s.dispatcher.firstFrame (.ofBuffer (.ofBytes input.bytes)) q).result with
      | ok b =>
          rw [hr] at hservice
          rw [Run.bind_of_ok hservice]
          show _ = if b.length ≤ Status.maxLength then Status.ok else Status.malformedResult
          by_cases hlong : b.length ≤ Status.maxLength
          · rw [if_pos hlong, if_pos hlong]
            rfl
          · rw [if_neg hlong, if_neg hlong]
            rfl
      | error e =>
          rw [hr] at hservice
          rw [Run.bind_of_error hservice]
          rfl
      | panic =>
          rw [hr] at hservice
          rw [Run.bind_of_panic hservice]
          rfl
  | getSize input record =>
      have hverdict : ∀ r : Attempt CodecError VideoMetadata, Status.ofAttempt
          (r.mapError ServiceError.codec) = verdict (getSize input record) r := by
        intro r
        cases r <;> rfl
      rw [method_getSize]
      exact hverdict _

theorem calls_method :
    (c.method s q).journal.calls =
      (c.dispatch.perform s.dispatcher (.ofBuffer (.ofBytes c.input.bytes)) q).journal.calls := by
  cases c with
  | stream op input hasCallback =>
      rw [method_stream]
      exact Journal.calls_within _ _
  | firstFrame input slots =>
      rw [method_firstFrame, (Run.frame_bind _ q).1]
      · exact Journal.calls_within _ _
      · intro b r
        by_cases hlong : b.length ≤ Status.maxLength
        · rw [if_pos hlong]
          exact ⟨rfl, rfl⟩
        · rw [if_neg hlong]
          exact ⟨rfl, rfl⟩
  | getSize input record =>
      rw [method_getSize]
      exact Journal.calls_within _ _

end Method

section Verdict

variable {c : CodecCall} {a : Answer}

theorem verdict_made_of_unusable (h : c.Unusable a) :
    c.verdict (c.dispatch.made a) = Status.malformedResult := by
  cases h with
  | @count input slots _ hcount =>
      show verdict (firstFrame input slots) (Dispatcher.sole a.chunks) = _
      rcases Dispatcher.sole_cases a.chunks with ⟨b, hb, -⟩ | ⟨-, hmany⟩
      · rw [hb] at hcount
        exact absurd rfl hcount
      · rw [hmany]
        rfl
  | @long input slots _ b honly hlength =>
      show verdict (firstFrame input slots) (Dispatcher.sole a.chunks) = _
      rw [honly]
      exact if_neg (Nat.not_le.mpr hlength)

theorem verdict_made_of_usable (h : ¬ c.Unusable a) :
    c.verdict (c.dispatch.made a) = Status.ok := by
  cases c with
  | stream op input hasCallback => rfl
  | getSize input record => rfl
  | firstFrame input slots =>
      show verdict (firstFrame input slots) (Dispatcher.sole a.chunks) = _
      rcases Dispatcher.sole_cases a.chunks with ⟨b, hb, hone⟩ | ⟨hcount, -⟩
      · rw [hone]
        exact if_pos (Nat.not_lt.mp fun hlong => h (.long hb hlong))
      · exact absurd (.count hcount) h

theorem verdict_concluded_of_failed {o : DispatchOptions} {code : Status}
    (h : code ≠ Status.ok) : c.verdict (c.dispatch.concluded o a code) = code := by
  rw [Dispatch.concluded, if_neg h]
  cases c <;> rfl

end Verdict

/-! ### Every cause gives its status -/

/-- A call returns this status, and after whatever it loads it makes these calls. -/
structure Ends (c : CodecCall) (p : State) (status : Status) (asked : List Call) : Prop where
  returns : ∃ memory, ((c.perform : Run ServiceError _) p).result = .ok (status, memory)
  calls : ∃ loads, ((c.perform : Run ServiceError _) p).journal.calls = loads ++ asked ∧
    ∀ call ∈ loads, call.isLoad = true

section Ends

variable {c : CodecCall} {p : State} {s : Service}

theorem Finds.served (h : c.Finds p s) : p.served = .ok s := Boundary.served_of_found h.found

/-- With a service, a call ends as its dispatcher does. -/
theorem Finds.ends (h : c.Finds p s) {r : Attempt CodecError c.dispatch.Output}
    {states : List InvocationState} {placed : List (Option InvocationState × Call)} {q : State}
    (hcourse : (c.dispatch.perform s.dispatcher (.ofBuffer (.ofBytes c.input.bytes)) p.serving).Course
      r states placed q) :
    c.Ends p (c.verdict r) (placed.map Prod.snd) := by
  have hran : ((c.perform : Run ServiceError _) p).ComesTo _ _ _ :=
    perform_of_served h.pointers h.served
  rw [status_method, calls_method, hcourse.result, hcourse.calls] at hran
  exact ⟨⟨_, hran.result⟩, _, hran.calls, fun call => State.isLoad_of_mem_servingLoads⟩

theorem ends_of_unserved (hpointers : c.lacksPointer = false) {e : ServiceError}
    (h : (Boundary.service p).result = .error e) : c.Ends p e.status [] := by
  have hran : ((c.perform : Run ServiceError _) p).ComesTo _ _ _ :=
    perform_of_unserved hpointers (Boundary.served_of_unfound h)
  refine ⟨⟨_, hran.result⟩, p.servingLoads, ?_, fun call => State.isLoad_of_mem_servingLoads⟩
  rw [hran.calls, List.append_nil]

theorem Finds.ends_of_refused (h : c.Finds p s) (hreadable : c.input.Readable)
    (hrefused : c.input.Refused s.dispatcher.options.maxInputBytes) :
    c.Ends p Status.invalidInput [] := by
  obtain ⟨f, hf⟩ := MediaBuffer.not_accepted_iff.mp fun haccepted =>
    (ForeignInput.accepted_iff hreadable).mp haccepted hrefused
  exact h.ends (Dispatch.course_of_fault hf)

theorem Finds.ends_of_closed (h : c.Finds p s) (hreadable : c.input.Readable)
    (hinput : ¬ c.input.Refused s.dispatcher.options.maxInputBytes)
    (hclosed : p.hasClosed s.handle = true) : c.Ends p Status.backendClosed [] := by
  have hvalid := MediaBuffer.accepted_iff.mp ((ForeignInput.accepted_iff hreadable).mpr hinput)
  exact h.ends (Dispatch.course_of_closed hvalid ((p.hasClosed_serving _).trans hclosed))

section Answers

variable {a : Answer} (h : c.Answers p a) (hreadable : c.input.Readable)
include h hreadable

/-- A call that is answered meets what its dispatcher asks for, once its service is loaded. -/
theorem Answers.served : ∃ s, c.Finds p s ∧
    (MediaBuffer.ofBuffer (.ofBytes c.input.bytes)).fault? s.dispatcher.options.maxInputBytes = none ∧
    p.serving.hasClosed s.handle = false ∧
    c.dispatch.answer? s.handle.backend p.serving.past c.input.bytes = some a := by
  obtain ⟨s, ⟨hfinds, hinput, hopened⟩, ha⟩ := h
  rw [(Boundary.service_comesTo p).after] at ha
  exact ⟨s, hfinds, MediaBuffer.accepted_iff.mp ((ForeignInput.accepted_iff hreadable).mpr hinput),
    (p.hasClosed_serving _).trans hopened, ha⟩

theorem ends_of_panic (hpanic : a.ending = .panic) :
    c.Ends p Status.internal [.invoke c.dispatch.operation c.input.bytes] := by
  obtain ⟨s, hfinds, hvalid, hopen, ha⟩ := h.served hreadable
  exact hfinds.ends (Dispatch.course_of_panic hvalid hopen ha hpanic)

theorem ends_of_status {code : Status} (hcode : a.ending = .status code) : ∃ o,
    c.Ends p (c.verdict (c.dispatch.concluded o a code))
      [.invoke c.dispatch.operation c.input.bytes] := by
  obtain ⟨s, hfinds, hvalid, hopen, ha⟩ := h.served hreadable
  exact ⟨_, hfinds.ends (Dispatch.course_of_status hvalid hopen ha hcode)⟩

end Answers

/-- What a call asks the backend, if it does. -/
def asks (c : CodecCall) (x : Cause) : List Call :=
  if x.asks then [.invoke c.dispatch.operation c.input.bytes] else []

/-- A call ends as its cause says. -/
theorem ends_of_stems (hreadable : c.input.Readable) {x : Cause} (h : c.Stems p x) :
    c.Ends p x.status (c.asks x) := by
  cases x with
  | input =>
      rcases h with hlacks | ⟨s, hfinds, hrefused⟩
      · refine ⟨⟨c.spared, ?_⟩, [], ?_, fun call hcall => absurd hcall List.not_mem_nil⟩
        · rw [perform_of_lacksPointer hlacks]
          rfl
        · rw [perform_of_lacksPointer hlacks]
          rfl
      · exact hfinds.ends_of_refused hreadable hrefused
  | host =>
      obtain ⟨hpointers, h, -, hunfound⟩ := h
      exact ends_of_unserved hpointers hunfound
  | load =>
      obtain ⟨hpointers, fault, hunfound⟩ := h
      exact ends_of_unserved hpointers hunfound
  | closed =>
      obtain ⟨s, hfinds, hinput, hclosed⟩ := h
      exact hfinds.ends_of_closed hreadable hinput hclosed
  | result =>
      obtain ⟨a, ha, hok, hunusable⟩ := h
      obtain ⟨o, hends⟩ := ends_of_status ha hreadable hok
      rw [Dispatch.concluded, if_pos rfl, verdict_made_of_unusable hunusable] at hends
      exact hends
  | panic =>
      obtain ⟨a, ha, hpanic⟩ := h
      exact ends_of_panic ha hreadable hpanic
  | backend code =>
      obtain ⟨a, ha, hcode, hfailed⟩ := h
      obtain ⟨o, hends⟩ := ends_of_status ha hreadable hcode
      rw [verdict_concluded_of_failed hfailed] at hends
      exact hends
  | success =>
      obtain ⟨a, ha, hok, husable⟩ := h
      obtain ⟨o, hends⟩ := ends_of_status ha hreadable hok
      rw [Dispatch.concluded, if_pos rfl, verdict_made_of_usable husable] at hends
      exact hends

theorem invoke_mem_of_stems (hreadable : c.input.Readable) {x : Cause} (h : c.Stems p x)
    (op : Operation) (bytes : Bytes) :
    .invoke op bytes ∈ ((c.perform : Run ServiceError _) p).journal.calls ↔
      x.asks = true ∧ op = c.dispatch.operation ∧ bytes = c.input.bytes := by
  obtain ⟨loads, hcalls, hloads⟩ := (ends_of_stems hreadable h).calls
  have hnone : Call.invoke op bytes ∉ loads := fun hmem => absurd (hloads _ hmem) Bool.false_ne_true
  rw [hcalls, List.mem_append, or_iff_right hnone, asks]
  cases x.asks <;> simp

theorem reaches_of_asks {x : Cause} (h : c.Stems p x) (hasks : x.asks = true) :
    ∃ s, c.Reaches p s := by
  cases x with
  | result | panic | backend code | success =>
      obtain ⟨a, ⟨s, hreaches, -⟩, -⟩ := h
      exact ⟨s, hreaches⟩
  | input | host | load | closed => exact absurd hasks Bool.false_ne_true

/-! ### Some cause always holds -/

/-- A backend that is called answers, and its answer is a cause. -/
theorem Reaches.exists_stems {s : Service} (h : c.Reaches p s) :
    ∃ x, c.Stems p x ∧ x.asks = true := by
  obtain ⟨a, ha⟩ : ∃ a, c.Answers p a := by
    cases c with
    | stream op input hasCallback =>
        have hs : (Dispatch.chunks op.operation).answer? s.handle.backend
            (Boundary.service p).after.past input.bytes = some _ :=
          congrArg (Option.map _) op.streaming?_operation
        exact ⟨_, s, h, hs⟩
    | firstFrame input slots => exact ⟨_, s, h, rfl⟩
    | getSize input record => exact ⟨_, s, h, rfl⟩
  cases hending : a.ending with
  | panic => exact ⟨.panic, ⟨a, ha, hending⟩, rfl⟩
  | status code =>
      by_cases hok : code = Status.ok
      · rw [hok] at hending
        by_cases hunusable : c.Unusable a
        · exact ⟨.result, ⟨a, ha, hending, hunusable⟩, rfl⟩
        · exact ⟨.success, ⟨a, ha, hending, hunusable⟩, rfl⟩
      · exact ⟨.backend code, ⟨a, ha, hending, hok⟩, rfl⟩

theorem exists_stems (hhonest : p.Honest) (c : CodecCall) : ∃ x, c.Stems p x := by
  -- The cases follow the checks in the order in which a call comes to them.
  cases hlacks : c.lacksPointer with
  | true => exact ⟨.input, .inl hlacks⟩
  | false =>
  cases hserved : p.served with
  | error e =>
      have hservice : (Boundary.service p).result = .error e := by
        rw [(Boundary.service_comesTo p).result, hserved]
        rfl
      obtain ⟨f, rfl, hf⟩ := hhonest.unopened hserved
      cases hf with
      | host h hunserved => exact ⟨.host, hlacks, h, hunserved, hservice⟩
      | load fault => exact ⟨.load, hlacks, fault, hservice⟩
  | ok s =>
      have hfinds : c.Finds p s := by
        refine ⟨hlacks, ?_⟩
        rw [(Boundary.service_comesTo p).result, hserved]
        rfl
      by_cases hinput : c.input.Refused s.dispatcher.options.maxInputBytes
      · exact ⟨.input, .inr ⟨s, hfinds, hinput⟩⟩
      · cases hclosed : p.hasClosed s.handle with
        | true => exact ⟨.closed, s, hfinds, hinput, hclosed⟩
        | false =>
            have hreaches : c.Reaches p s := ⟨hfinds, hinput, hclosed⟩
            obtain ⟨x, hx, -⟩ := hreaches.exists_stems
            exact ⟨x, hx⟩

/-- With a codec that keeps out of the reserved range, the cause of a call is a proper one. -/
theorem proper_of_stems
    (hkeeps : ∀ s, (Boundary.service p).result = .ok s → s.handle.backend.KeepsOut) {x : Cause}
    (h : c.Stems p x) : x.Proper := by
  cases x with
  | backend code =>
      obtain ⟨a, ⟨s, hreaches, ha⟩, hcode, hfailed⟩ := h
      exact ⟨hfailed, hkeeps s hreaches.found _ _ _ _ _ c.input.length_bytes_le ha hcode⟩
  | input | host | load | result | closed | panic | success => trivial

end Ends

/-! ### A status tells its cause -/

/-- What the status of a codec call says, where `cs` are the calls that it made. -/
structure Identifies (c : CodecCall) (p : State) (cs : List Call) (status : Status) : Prop where
  success : status = Status.ok ↔
    ∃ a, c.Answers p a ∧ a.ending = .status Status.ok ∧ ¬ c.Unusable a
  /-- A failure with a status that is not reserved is the backend's own. -/
  backend : status ≠ Status.ok ∧ status.isReserved = false ↔
    ∃ a, c.Answers p a ∧ a.ending = .status status ∧ status ≠ Status.ok
  reserved : status.isReserved = true →
    status ∈ [Status.invalidInput, Status.unsupportedPlatform, Status.backendLoad,
      Status.malformedResult, Status.backendClosed, Status.internal]
  input : status = Status.invalidInput ↔ c.lacksPointer = true ∨
    ∃ s, c.Finds p s ∧ c.input.Refused s.dispatcher.options.maxInputBytes
  host : status = Status.unsupportedPlatform ↔ c.lacksPointer = false ∧
    ∃ h : Host, Platform.resolve? h.os h.arch = none ∧
      (Boundary.service p).result = .error (.codec (.unsupportedPlatform h.os h.arch))
  load : status = Status.backendLoad ↔ c.lacksPointer = false ∧
    ∃ fault, (Boundary.service p).result = .error (.codec (.backendLoad fault))
  result : status = Status.malformedResult ↔
    ∃ a, c.Answers p a ∧ a.ending = .status Status.ok ∧ c.Unusable a
  closed : status = Status.backendClosed ↔
    ∃ s, c.Finds p s ∧ ¬ c.input.Refused s.dispatcher.options.maxInputBytes ∧
      p.hasClosed s.handle = true
  panic : status = Status.internal ↔ ∃ a, c.Answers p a ∧ a.ending = .panic
  /-- Two reserved statuses are never returned. -/
  spared : status ≠ Status.inputTooLarge ∧ status ≠ Status.sinkPanicked
  /-- The backend is called, with the caller's bytes, where the call gets through to it. -/
  asked : ∀ op bytes, .invoke op bytes ∈ cs ↔
    (∃ s, c.Reaches p s) ∧ op = c.dispatch.operation ∧ bytes = c.input.bytes

section Identifies

variable {c : CodecCall} {p : State} (hreadable : c.input.Readable) (hhonest : p.Honest)
  (hkeeps : ∀ s, (Boundary.service p).result = .ok s → s.handle.backend.KeepsOut)
  {status : Status} {memory : CallerMemory}
  (hreturns : ((c.perform : Run ServiceError _) p).result = .ok (status, memory))
include hreadable hreturns

theorem status_of_stems {x : Cause} (h : c.Stems p x) : status = x.status := by
  obtain ⟨returned, hreturned⟩ := (ends_of_stems hreadable h).returns
  rw [hreturns] at hreturned
  exact congrArg Prod.fst (Attempt.ok.inj hreturned)

include hhonest hkeeps

/-- A proper cause is what the call stems from exactly where the call returns its status. -/
theorem status_eq_iff {x : Cause} (hx : x.Proper) : status = x.status ↔ c.Stems p x := by
  constructor
  · intro hstatus
    obtain ⟨y, hy⟩ := exists_stems hhonest c
    have hyx : y.status = x.status := (status_of_stems hreadable hreturns hy).symm.trans hstatus
    obtain rfl := Cause.eq_of_status_eq (proper_of_stems hkeeps hy) hx hyx
    exact hy
  · exact status_of_stems hreadable hreturns

theorem reserved_of_returns (h : status.isReserved = true) :
    status ∈ [Status.invalidInput, Status.unsupportedPlatform, Status.backendLoad,
      Status.malformedResult, Status.backendClosed, Status.internal] := by
  obtain ⟨x, hx⟩ := exists_stems hhonest c
  have hproper := proper_of_stems hkeeps hx
  rw [status_of_stems hreadable hreturns hx] at h ⊢
  refine Cause.isReserved_status ?_ ?_
  · rintro rfl
    exact absurd h (by decide)
  · rintro code rfl
    exact absurd (h.symm.trans hproper.2) (by decide)

theorem backend_iff : status ≠ Status.ok ∧ status.isReserved = false ↔
    ∃ a, c.Answers p a ∧ a.ending = .status status ∧ status ≠ Status.ok := by
  constructor
  · intro hown
    exact (status_eq_iff hreadable hhonest hkeeps hreturns (x := .backend status) hown).mp rfl
  · intro hstems
    exact proper_of_stems hkeeps (x := .backend status) hstems

/-- The backend is called exactly where the call gets through to it. -/
theorem asked_iff (op : Operation) (bytes : Bytes) :
    .invoke op bytes ∈ ((c.perform : Run ServiceError _) p).journal.calls ↔
      (∃ s, c.Reaches p s) ∧ op = c.dispatch.operation ∧ bytes = c.input.bytes := by
  obtain ⟨x, hx⟩ := exists_stems hhonest c
  rw [invoke_mem_of_stems hreadable hx]
  refine and_congr_left' ⟨reaches_of_asks hx, ?_⟩
  rintro ⟨s, hreaches⟩
  -- A call that gets through stems from an answer, and it has no other cause.
  obtain ⟨y, hy, hasks⟩ := hreaches.exists_stems
  have hyx := (status_of_stems hreadable hreturns hy).symm.trans
    (status_of_stems hreadable hreturns hx)
  obtain rfl := Cause.eq_of_status_eq (proper_of_stems hkeeps hy) (proper_of_stems hkeeps hx) hyx
  exact hasks

/-- The status of a codec call identifies what it stems from. -/
theorem identifies_of_returns :
    c.Identifies p ((c.perform : Run ServiceError _) p).journal.calls status where
  success := status_eq_iff hreadable hhonest hkeeps hreturns (x := .success) trivial
  backend := backend_iff hreadable hhonest hkeeps hreturns
  reserved := reserved_of_returns hreadable hhonest hkeeps hreturns
  input := status_eq_iff hreadable hhonest hkeeps hreturns (x := .input) trivial
  host := status_eq_iff hreadable hhonest hkeeps hreturns (x := .host) trivial
  load := status_eq_iff hreadable hhonest hkeeps hreturns (x := .load) trivial
  result := status_eq_iff hreadable hhonest hkeeps hreturns (x := .result) trivial
  closed := status_eq_iff hreadable hhonest hkeeps hreturns (x := .closed) trivial
  panic := status_eq_iff hreadable hhonest hkeeps hreturns (x := .panic) trivial
  spared := by
    have hreserved := reserved_of_returns hreadable hhonest hkeeps hreturns
    refine ⟨?_, ?_⟩
    · rintro rfl
      exact absurd (hreserved (by decide)) (by decide)
    · rintro rfl
      exact absurd (hreserved (by decide)) (by decide)
  asked := asked_iff hreadable hhonest hkeeps hreturns

end Identifies

end CodecCall

namespace History

/-- In every run of a process that begins with an empty cell, each codec call returns, and its
status identifies what it stems from. -/
theorem identifies_run (steps : List Step) (p : State) (hcell : p.cell.stored = none) :
    ∀ e ∈ run Step.perform steps p, ∀ c, e.asked = .codec c → c.input.Readable →
      (∀ s, (Boundary.service e.before).result = .ok s → s.handle.backend.KeepsOut) →
      ∃ status memory, e.ran.result = .ok (.codec status memory) ∧
        c.Identifies e.before e.calls status := by
  intro e he c hasked hreadable hkeeps
  have hhonest : e.before.Honest := by
    have hfirst : p.Honest := by
      intro f hf
      rw [State.stored, hcell] at hf
      cases hf
    exact (invariant_run Step.honest_perform hfirst e he).1
  obtain ⟨x, hx⟩ := CodecCall.exists_stems hhonest c
  obtain ⟨memory, hreturns⟩ := (CodecCall.ends_of_stems hreadable hx).returns
  refine ⟨x.status, memory, ?_, ?_⟩
  · rw [ran_of_mem he, hasked, Step.perform_codec, Run.result_map, hreturns]
    rfl
  · have hcalls : e.calls = ((c.perform : Run ServiceError _) e.before).journal.calls := by
      rw [Episode.calls, ran_of_mem he, hasked, Step.perform_codec, (Run.frame_map _ _ e.before).1]
    rw [hcalls]
    exact CodecCall.identifies_of_returns hreadable hhonest hkeeps hreturns

end History

theorem Backend.keepsOut_faulty : Backend.faulty.KeepsOut := by
  intro d past bytes a code _ ha hcode
  cases d with
  | chunks op =>
      obtain ⟨s, -, rfl⟩ := Option.map_eq_some_iff.mp ha
      cases s with
      | audioToPcm | silkDecode =>
          cases hcode
          rfl
      | silkEncode => cases hcode
  | frame | size =>
      cases ha
      cases hcode
      rfl

/-- A process in which nothing has happened, and where that codec would be loaded. -/
def State.faulting : State :=
  .fresh ⟨"/", ⟨"linux", "x86_64"⟩, ⟨true, fun _ _ => ⟨[], .ok .faulty⟩⟩⟩ .empty

theorem Boundary.service_faulting :
    (Boundary.service .faulting).result =
      .ok ⟨⟨⟨0, some ⟨.linuxX64, "/lib/linux-x64/liblagrangecodec.so"⟩, .faulty⟩, {}⟩⟩ := by
  rfl

/-- The first call of a process loads a codec, which then fails with a status of its own. -/
theorem History.identifies_run_faulting :
    let c : CodecCall := .stream .audioToPcm ⟨some (.ofBytes [1, 2]), 2⟩ true
    let e : Episode Step ServiceError Reply :=
      ⟨.codec c, .faulting, (Step.codec c).perform .faulting⟩
    State.faulting.cell.stored = none ∧ e ∈ run Step.perform [.codec c, .close] .faulting ∧
      c.input.Readable ∧
      (∀ s, (Boundary.service e.before).result = .ok s → s.handle.backend.KeepsOut) ∧
      ∃ status memory, e.ran.result = .ok (.codec status memory) ∧
        c.Identifies e.before e.calls status := by
  intro c e
  have hmem : e ∈ run Step.perform [.codec c, .close] .faulting := List.mem_cons_self
  have hreadable : c.input.Readable := by
    rintro b ⟨⟩
    decide
  have hkeeps : ∀ s, (Boundary.service e.before).result = .ok s → s.handle.backend.KeepsOut := by
    intro s hs
    obtain rfl := Attempt.ok.inj (Boundary.service_faulting.symm.trans hs)
    exact Backend.keepsOut_faulty
  exact ⟨rfl, hmem, hreadable, hkeeps, identifies_run _ _ rfl e hmem c rfl hreadable hkeeps⟩

end MediaCodec
