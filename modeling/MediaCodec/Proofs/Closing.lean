/-
Closing — what a close does, and what it does to everything after it.

The holders of a handle use it through dispatchers, services and background tasks, each under
options of its own.  `Use` has all that they can do as values, so that what they do together is
a list, in the order in which it happens.

Until the first close nothing closes the handle, whatever fails or panics.  The first close
releases the backend.  From then on a close does nothing and says so, and every other use is
refused without a call: for its input if that is bad, and because the handle is closed if not.
A composition is refused with the first operation it is made of, which is why encoding a voice
message does not fall back on the input and a preview does not probe.

One use is `lawful_perform`; a whole run is `lawful_run` and `releases_run`, by induction on the
list, with the handle's flag as what is handed from use to use.
-/

import MediaCodec.Proofs.Frame

namespace MediaCodec

/-! ## One close -/

/-- The state after the first close of a handle. -/
def State.closing (p : State) (h : Handle) : State :=
  State.called { p with closed := h.id :: p.closed } (.release h.id h.backend.release.told)

@[simp] theorem State.hasClosed_closing (p : State) (h : Handle) :
    (p.closing h).hasClosed h = true := by
  simp [closing, called, hasClosed]

namespace Handle

theorem close_of_closed {h : Handle} {p : State} (hclosed : p.hasClosed h = true) :
    (h.close : Run ε Bool) p = ⟨[], .ok false, p⟩ := by
  simp [close, hclosed]

theorem close_of_open {h : Handle} {p : State} (hopen : p.hasClosed h = false) :
    ((h.close : Run ε Bool) p).ComesTo (.ok true) [.release h.id h.backend.release.told]
      (p.closing h) := by
  refine ⟨?_, ?_, ?_⟩ <;> simp [close, hopen, State.closing]

end Handle

/-! ## Refusals -/

/-- The computation fails without a call. -/
def Run.Refuses (r : Run ε α) (p : State) (e : ε) : Prop :=
  (r p).result = .error e ∧ (r p).journal.calls = []

namespace Run.Refuses

variable {p : State}

/-- What would have followed a refusal does not happen. -/
theorem bind {r : Run ε α} {e : ε} (h : r.Refuses p e) (f : α → Run ε β) :
    (r >>= f).Refuses p e := by
  obtain ⟨hresult, hcalls⟩ := h
  refine ⟨?_, ?_⟩
  · rw [Run.bind_of_error hresult]
  · rw [Run.bind_of_error hresult]
    exact hcalls

theorem mapError {r : Run ε α} {e : ε} (f : ε → δ) (h : r.Refuses p e) :
    (Run.mapError f r).Refuses p (f e) := by
  obtain ⟨hresult, hcalls⟩ := h
  refine ⟨?_, hcalls⟩
  rw [Run.mapError_apply, hresult]
  rfl

theorem within {r : Run ε α} {e : ε} (s : Span) (h : r.Refuses p e) :
    (Run.within s r).Refuses p e := by
  refine ⟨h.1, ?_⟩
  rw [Run.within_apply, Journal.calls_within]
  exact h.2

end Run.Refuses

/-- The error of a call on a closed handle. -/
def DispatchOptions.refusal (o : DispatchOptions) (input : MediaBuffer) : CodecError :=
  match input.fault? o.maxInputBytes with
  | some f => .invalidInput f
  | none => .backendClosed

namespace DispatchOptions

variable {o : DispatchOptions} {input : MediaBuffer}

theorem refusal_of_accepted (h : input.Accepted o.maxInputBytes) :
    o.refusal input = .backendClosed := by
  rw [refusal, MediaBuffer.accepted_iff.mp h]

theorem refusal_of_not_accepted (h : ¬ input.Accepted o.maxInputBytes) :
    ∃ f, o.refusal input = .invalidInput f := by
  obtain ⟨f, hf⟩ := MediaBuffer.not_accepted_iff.mp h
  exact ⟨f, by rw [refusal, hf]⟩

/-- No refusal is a failure that the backend reported. -/
theorem refusal_cases (o : DispatchOptions) (input : MediaBuffer) :
    (∃ f, o.refusal input = .invalidInput f) ∨ o.refusal input = .backendClosed := by
  unfold refusal
  cases input.fault? o.maxInputBytes with
  | some f => exact .inl ⟨f, rfl⟩
  | none => exact .inr rfl

end DispatchOptions

theorem Dispatcher.refuses_invoke {d : Dispatcher} {op : Operation} {input : MediaBuffer}
    {body : Invocation → Run CodecError α} {p : State} (hclosed : p.hasClosed d.handle = true) :
    (d.invoke op input body).Refuses p (d.options.refusal input) := by
  unfold DispatchOptions.refusal
  cases hfault : input.fault? d.options.maxInputBytes with
  | some f => exact ⟨by rw [invoke_of_fault hfault], by rw [invoke_of_fault hfault]; simp⟩
  | none =>
      exact ⟨by rw [invoke_of_closed hfault hclosed],
        by rw [invoke_of_closed hfault hclosed]; simp⟩

namespace Service

variable {s : Service} {input : Buffer} {p : State}

/-- The error of an operation on a closed handle. -/
def refusal (s : Service) (input : Buffer) : ServiceError :=
  .codec (s.dispatcher.options.refusal (.ofBuffer input))

theorem refuses_dispatch (hclosed : p.hasClosed s.handle = true) (op : Streaming) :
    (s.dispatch op input).Refuses p (s.refusal input) :=
  .within _ (.mapError _ (Dispatcher.refuses_invoke hclosed))

theorem refuses_videoFirstFrame (hclosed : p.hasClosed s.handle = true) :
    (s.videoFirstFrame input).Refuses p (s.refusal input) :=
  .within _ (.mapError _ (Dispatcher.refuses_invoke hclosed))

theorem refuses_videoGetSize (hclosed : p.hasClosed s.handle = true) :
    (s.videoGetSize input).Refuses p (s.refusal input) :=
  .within _ (.mapError _ (Dispatcher.refuses_invoke hclosed))

/-- A closed handle is no reason to take the input for PCM. -/
theorem refuses_pcmBehind (hclosed : p.hasClosed s.handle = true) :
    (s.pcmBehind input).Refuses p (s.refusal input) := by
  have hdecode : (s.audioToPcm input).Refuses p (s.refusal input) :=
    (refuses_dispatch hclosed .audioToPcm).bind _
  obtain ⟨hresult, hcalls⟩ := hdecode
  rw [Run.Refuses, pcmBehind, Run.attempt_bind_apply, hresult]
  rcases s.dispatcher.options.refusal_cases (.ofBuffer input) with ⟨f, hf⟩ | hf
  · rw [refusal, hf]
    exact ⟨rfl, by simpa using hcalls⟩
  · rw [refusal, hf]
    exact ⟨rfl, by simpa using hcalls⟩

/-- Every request is refused, with the error of the first operation it is made of. -/
theorem refuses_perform (hclosed : p.hasClosed s.handle = true) (r : Request) :
    (r.perform s input).Refuses p (s.refusal input) := by
  cases r with
  | audioToPcm => exact ((refuses_dispatch hclosed _).bind _).bind _
  | audioToPcmChunks => exact (refuses_dispatch hclosed _).bind _
  | silkDecode => exact ((refuses_dispatch hclosed _).bind _).bind _
  | silkDecodeChunks => exact (refuses_dispatch hclosed _).bind _
  | silkEncode => exact ((refuses_dispatch hclosed _).bind _).bind _
  | silkEncodeChunks => exact (refuses_dispatch hclosed _).bind _
  | videoFirstFrame => exact (refuses_videoFirstFrame hclosed).bind _
  | videoGetSize => exact (refuses_videoGetSize hclosed).bind _
  | audioToMonoPcm => exact (((refuses_dispatch hclosed _).bind _).bind _).bind _
  | silkDecodePcm => exact (((refuses_dispatch hclosed _).bind _).bind _).bind _
  | encodeVoice => exact (((refuses_pcmBehind hclosed).bind _).within _).bind _
  | videoPreview => exact ((refuses_videoGetSize hclosed).bind _).bind _

/-- A refusal in the background is the same refusal. -/
theorem refuses_background {r : Run ServiceError α} {e : ServiceError}
    (h : r.Refuses { p with threads := p.threads + 1 } e) : (background r).Refuses p e := by
  obtain ⟨hresult, hcalls⟩ := h
  have hresult' : (Run.onNewThread r p).result = .error e := hresult
  have hcalls' : (Run.onNewThread r p).journal.calls = [] := by
    show (Journal.onThread _ _).calls = []
    rw [Journal.calls_onThread]
    exact hcalls
  rw [Run.Refuses, background, Run.attempt_bind_apply, hresult']
  exact ⟨rfl, by simpa using hcalls'⟩

end Service

/-! ## Everything that the holders of a handle can do -/

/-- One use of a handle, through a dispatcher, through a service, or in the background. -/
inductive Use
  | dispatchChunks (o : DispatchOptions) (op : Operation) (input : MediaBuffer)
  | firstFrame (o : DispatchOptions) (input : MediaBuffer)
  | videoSize (o : DispatchOptions) (input : MediaBuffer)
  | request (o : DispatchOptions) (r : Request) (input : Buffer)
  | background (o : DispatchOptions) (r : Request) (input : Buffer)
  | closeHandle
  | closeService (o : DispatchOptions)

namespace Use

/-- What a use answers with. -/
inductive Answer
  | product (p : Product)
  /-- Whether this was the first close. -/
  | closed (first : Bool)
  deriving DecidableEq, Repr

/-- Whether the use closes the handle. -/
def isClose : Use → Bool
  | closeHandle | closeService _ => true
  | _ => false

/-- The input of a use, and the options that it is checked under; a close has none. -/
def input? : Use → Option (DispatchOptions × MediaBuffer)
  | dispatchChunks o _ input | firstFrame o input | videoSize o input => some (o, input)
  | request o _ input | background o _ input => some (o, .ofBuffer input)
  | closeHandle | closeService _ => none

/-- Performs a use of a handle. -/
def perform (h : Handle) : Use → Run ServiceError Answer
  | dispatchChunks o op input => do
    return .product (.stream (← Run.mapError .codec (Dispatcher.dispatchChunks ⟨h, o⟩ op input)))
  | firstFrame o input => do
    return .product (.bytes (← Run.mapError .codec (Dispatcher.firstFrame ⟨h, o⟩ input)))
  | videoSize o input => do
    return .product (.metadata (← Run.mapError .codec (Dispatcher.videoSize ⟨h, o⟩ input)))
  | request o r input => do
    return .product (← r.perform (.ofHandle h o) input)
  | background o r input => do
    return .product (← Service.background (r.perform (.ofHandle h o) input))
  | closeHandle => do
    return .closed (← h.close)
  | closeService o => do
    return .closed (← (Service.ofHandle h o).close)

variable {h : Handle} {u : Use} {p : State}

/-- Every use but a close keeps the frame. -/
theorem keeps_perform (hu : u.isClose = false) : (u.perform h).Keeps (State.Used h) := by
  have ht := State.Used.trail h
  cases u with
  | dispatchChunks o op input =>
      exact ht.bind (.mapError _ (Dispatcher.keeps_dispatchChunks ⟨h, o⟩)) fun _ => ht.pure _
  | firstFrame o input =>
      exact ht.bind (.mapError _ (Dispatcher.keeps_firstFrame ⟨h, o⟩)) fun _ => ht.pure _
  | videoSize o input =>
      exact ht.bind (.mapError _ (Dispatcher.keeps_videoSize ⟨h, o⟩)) fun _ => ht.pure _
  | request o r input =>
      exact ht.bind (Service.keeps_perform (.ofHandle h o) r) fun _ => ht.pure _
  | background o r input =>
      have hr : (r.perform (.ofHandle h o) input).Keeps (State.Used h) :=
        Service.keeps_perform (.ofHandle h o) r
      exact ht.bind (Service.keeps_background hr) fun _ => ht.pure _
  | closeHandle | closeService o => exact absurd hu Bool.noConfusion

/-- Every use with an input is refused on a closed handle. -/
theorem refuses_perform (hclosed : p.hasClosed h = true) {o : DispatchOptions}
    {input : MediaBuffer} (hu : u.input? = some (o, input)) :
    (u.perform h).Refuses p (.codec (o.refusal input)) := by
  cases u with
  | dispatchChunks o op input | firstFrame o input | videoSize o input =>
      obtain ⟨rfl, rfl⟩ := hu
      exact ((Dispatcher.refuses_invoke hclosed).mapError _).bind _
  | request o r input =>
      obtain ⟨rfl, rfl⟩ := hu
      exact (Service.refuses_perform hclosed r).bind _
  | background o r input =>
      obtain ⟨rfl, rfl⟩ := hu
      exact (Service.refuses_background (Service.refuses_perform hclosed r)).bind _
  | closeHandle | closeService o => exact absurd hu (Option.some_ne_none _).symm

theorem perform_close_of_closed (hu : u.isClose = true) (hclosed : p.hasClosed h = true) :
    u.perform h p = ⟨[], .ok (.closed false), p⟩ := by
  have hclose : (h.close : Run ServiceError Bool) p = _ := Handle.close_of_closed hclosed
  cases u with
  | closeHandle | closeService o =>
      show ((h.close : Run ServiceError Bool) >>= _) p = _
      rw [Run.bind_of_eq_ok hclose]
      rfl
  | dispatchChunks | firstFrame | videoSize | request | background =>
      exact absurd hu Bool.false_ne_true

theorem perform_close_of_open (hu : u.isClose = true) (hopen : p.hasClosed h = false) :
    (u.perform h p).ComesTo (.ok (.closed true)) [.release h.id h.backend.release.told]
      (p.closing h) := by
  cases u with
  | closeHandle | closeService o => exact (Handle.close_of_open hopen).map_ok _
  | dispatchChunks | firstFrame | videoSize | request | background =>
      exact absurd hu Bool.false_ne_true

/-! ## One use -/

/-- What one use does, given whether the handle is closed when it begins. -/
structure Lawful (h : Handle) (closed : Bool) (e : Episode Use ServiceError Answer) : Prop where
  /-- A close answers whether it is the first one, and releases the backend if it is. -/
  close : e.asked.isClose = true →
    e.ran.result = .ok (.closed !closed) ∧
      e.calls = if closed then [] else [.release h.id h.backend.release.told]
  /-- Nothing else releases a backend. -/
  invokes : e.asked.isClose = false → ∀ c ∈ e.calls, c.IsInvoke
  /-- The handle is closed afterwards if it was before or is closed by this very use, whatever
  else became of the use. -/
  flag : e.after.hasClosed h = (closed || e.asked.isClose)
  /-- On a closed handle nothing is called. -/
  silent : closed = true → e.calls = []
  /-- On a closed handle a use with an input is refused, for its input if that is bad. -/
  refused : closed = true → ∀ o input, e.asked.input? = some (o, input) →
    (input.Accepted o.maxInputBytes → e.ran.result = .error (.codec .backendClosed)) ∧
    (¬ input.Accepted o.maxInputBytes → ∃ f, e.ran.result = .error (.codec (.invalidInput f)))

/-- Every use is lawful, for the flag as it is when the use begins. -/
theorem lawful_perform (h : Handle) (u : Use) (p : State) :
    Lawful h (p.hasClosed h) ⟨u, p, u.perform h p⟩ := by
  refine ⟨?_, ?_, ?_, ?_, ?_⟩
  · intro hu
    cases hflag : p.hasClosed h with
    | true =>
        have hran := perform_close_of_closed hu hflag
        exact ⟨congrArg Ran.result hran, congrArg (fun r => r.journal.calls) hran⟩
    | false =>
        have hran := perform_close_of_open hu hflag
        exact ⟨hran.result, hran.calls⟩
  · intro hu
    exact (keeps_perform hu p).invokes
  · show (u.perform h p).after.hasClosed h = (p.hasClosed h || u.isClose)
    cases hu : u.isClose with
    | false => rw [(keeps_perform hu p).hasClosed_eq, Bool.or_false]
    | true =>
        cases hflag : p.hasClosed h with
        | true => rw [perform_close_of_closed hu hflag, hflag]; rfl
        | false => rw [(perform_close_of_open hu hflag).after, State.hasClosed_closing]; rfl
  · intro hclosed
    show (u.perform h p).journal.calls = []
    cases hu : u.isClose with
    | true => rw [perform_close_of_closed hu hclosed, Journal.calls_nil]
    | false => exact (keeps_perform hu p).silent hclosed
  · intro hclosed o input hinput
    obtain ⟨hresult, -⟩ := refuses_perform hclosed hinput
    refine ⟨fun haccepted => ?_, fun hrejected => ?_⟩
    · show (u.perform h p).result = _
      rw [hresult, DispatchOptions.refusal_of_accepted haccepted]
    · obtain ⟨f, hf⟩ := DispatchOptions.refusal_of_not_accepted hrejected
      exact ⟨f, by show (u.perform h p).result = _; rw [hresult, hf]⟩

end Use

/-! ## Whole runs -/

/-- Whether the call releases a backend. -/
def Call.isRelease : Call → Bool
  | .release _ _ => true
  | _ => false

namespace History

/-- Whether a close is among the uses. -/
def closes (es : History Use ε α) : Bool := es.any fun e => e.asked.isClose

/-- Every use in a run is lawful, and the handle is closed for it if it was to begin with or a
close came before. -/
theorem lawful_run {h : Handle} {uses : List Use} {p : State}
    {pre post : History Use ServiceError Use.Answer} {e : Episode Use ServiceError Use.Answer}
    (hes : run (Use.perform h) uses p = pre ++ e :: post) :
    Use.Lawful h (p.hasClosed h || closes pre) e := by
  induction uses generalizing p pre with
  | nil => exact absurd hes (by simp [run])
  | cons u rest ih =>
      have hu := Use.lawful_perform h u p
      cases pre with
      | nil =>
          obtain ⟨rfl, -⟩ := List.cons.inj hes
          rw [closes, List.any_nil, Bool.or_false]
          exact hu
      | cons first pre =>
          obtain ⟨rfl, hrest⟩ := List.cons.inj hes
          have hflag : (u.perform h p).after.hasClosed h = (p.hasClosed h || u.isClose) := hu.flag
          have he := ih hrest
          rw [hflag, Bool.or_assoc] at he
          exact he

/-- The backend is released once if the handle was open and is ever closed, and else never. -/
theorem releases_run (h : Handle) (uses : List Use) (p : State) :
    (calls (run (Use.perform h) uses p)).filter Call.isRelease
      = if p.hasClosed h = false ∧ closes (run (Use.perform h) uses p) = true then
          [.release h.id h.backend.release.told]
        else [] := by
  induction uses generalizing p with
  | nil => simp [run, closes]
  | cons u rest ih =>
      have hu := Use.lawful_perform h u p
      have hflag : (u.perform h p).after.hasClosed h = (p.hasClosed h || u.isClose) := hu.flag
      rw [run, calls_cons, List.filter_append, ih, hflag]
      cases hclose : u.isClose with
      | true =>
          rw [(hu.close hclose).2]
          cases p.hasClosed h <;> simp [closes, hclose, Call.isRelease]
      | false =>
          have hnone : (Episode.calls ⟨u, p, u.perform h p⟩).filter Call.isRelease = [] := by
            refine List.filter_eq_nil_iff.mpr fun c hc => ?_
            obtain ⟨op, bytes, rfl⟩ := hu.invokes hclose c hc
            exact Bool.false_ne_true
          rw [hnone]
          simp [closes, hclose]

/-- What closing means for a run on a handle that is open to begin with. -/
structure ClosesOnce (h : Handle) (es : History Use ServiceError Use.Answer) : Prop where
  /-- Every use behaves as the closes before it demand. -/
  uses : ∀ pre e post, es = pre ++ e :: post → Use.Lawful h (closes pre) e
  /-- The backend is released once if there is a close, and else never. -/
  releases : (calls es).filter Call.isRelease =
    if closes es then [.release h.id h.backend.release.told] else []

/-- A close takes effect once, and for good, in every run of uses of an open handle. -/
theorem closesOnce_run (h : Handle) (uses : List Use) (p : State) (hopen : p.hasClosed h = false) :
    ClosesOnce h (run (Use.perform h) uses p) := by
  refine ⟨fun pre e post hes => ?_, ?_⟩
  · have he := lawful_run hes
    rw [hopen, Bool.false_or] at he
    exact he
  · rw [releases_run]
    simp only [hopen, true_and]

end History

/-- A codec that fails to decode after it has handed over a chunk, and that panics when it is
asked to encode. -/
def Backend.faulty : Backend where
  stream op _ _ :=
    match op with
    | .audioToPcm => { chunks := [[1, 2]], ending := .status 7 }
    | .silkDecode => {}
    | .silkEncode => { ending := .panic }
  firstFrame _ _ := {}
  getSize _ _ := {}

theorem History.closesOnce_run_faulty :
    let h : Handle := ⟨0, none, .faulty⟩
    let p : State := { machine := ⟨"/", ⟨"linux", "x86_64"⟩, ⟨true, fun _ _ => ⟨[], .ok .faulty⟩⟩⟩ }
    p.hasClosed h = false ∧
      ClosesOnce h (run (Use.perform h)
        [.request {} .encodeVoice (.ofBytes [1, 2]), .closeService {},
         .background {} .videoPreview (.ofBytes [5]), .closeHandle] p) :=
  ⟨rfl, closesOnce_run _ _ _ rfl⟩

end MediaCodec
