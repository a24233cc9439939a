/-
Parallels — two runs followed side by side.

Some things must not matter: how an output is cut into chunks, what becomes of partial results, how
much input is let through.  That such a thing does not matter is a statement about two runs, which
set out from related processes and are compared construct by construct.  What these comparisons
share is here.

A *congruence* is a relation of computations that passes from the parts of two computations to the
whole.  One construct looks at an error and goes on: a voice message that the codec cannot decode is
taken for PCM.  So a congruence also passes on from the decoding to what follows it.  A congruence
that holds of the calls of two dispatchers holds of every request, and of every use of a handle
(`Run.Congruence.perform`, `Run.Congruence.use`).

The main case are *parallels*: both runs make the same calls, their ends are of one kind, and the
processes after them are related as those before them were.  For a call of a dispatcher it is enough
that the two inputs meet the same fault and that the backends' answers come to related results
(`Dispatch.parallel_perform`): the course that the one call takes, the other takes too.
-/

import Mathlib.Data.List.Forall2
import MediaCodec.Proofs.Lifecycle
import MediaCodec.Proofs.Process

namespace MediaCodec

/-! ## A voice message, from its decoding on -/

/-- The status that the codec itself reported, if the error is such a report. -/
def ServiceError.reported? : ServiceError → Option Status
  | .codec (.backend _ code _) => some code
  | _ => none

namespace Service

/-- What is said when an input is taken for PCM. -/
def undecoded (code : Status) : Event :=
  .say serviceTarget .warn "Audio decode failed, encoding input as raw PCM"
    [("code", .signed code.toInt)]

/-- The PCM behind an input, once its decoding has ended. -/
def recovered (input : Buffer) : Attempt ServiceError Bytes → Run ServiceError PcmAudio
  | .ok data => return .native data
  | .error e =>
    match e.reported? with
    | some code => do
      Run.event (undecoded code)
      return .native input.toBytes
    | none => Run.fail e
  | .panic => Run.panic

theorem pcmBehind_eq (s : Service) (input : Buffer) :
    s.pcmBehind input = Run.attempt (s.audioToPcm input) >>= recovered input := by
  rw [pcmBehind]
  congr 1
  funext r
  cases r with
  | ok data => rfl
  | panic => rfl
  | error e =>
      cases e with
      | codec c => cases c <;> rfl
      | setup c => rfl
      | task => rfl

end Service

/-- The same use, under other options. -/
def Use.mapOptions (f : DispatchOptions → DispatchOptions) : Use → Use
  | dispatchChunks o op input => dispatchChunks (f o) op input
  | firstFrame o input => firstFrame (f o) input
  | videoSize o input => videoSize (f o) input
  | request o r input => request (f o) r input
  | background o r input => background (f o) r input
  | closeHandle => closeHandle
  | closeService o => closeService (f o)

theorem Use.mapOptions_id (u : Use) : u.mapOptions id = u := by
  cases u <;> rfl

/-! ## Congruences -/

/-- A relation of computations that passes from their parts to the whole. -/
structure Run.Congruence (R : ∀ {α : Type}, Run ServiceError α → Run ServiceError α → Prop) :
    Prop where
  pure : ∀ {α : Type} (a : α), R (Pure.pure a) (Pure.pure a)
  event : ∀ e : Event, e.target = serviceTarget → R (Run.event e) (Run.event e)
  bind : ∀ {α β : Type} {r r' : Run ServiceError α} {f f' : α → Run ServiceError β},
    R r r' → (∀ a, R (f a) (f' a)) → R (r >>= f) (r' >>= f')
  within : ∀ {α : Type} {r r' : Run ServiceError α} (s : Span),
    R r r' → R (Run.within s r) (Run.within s r')
  recovered : ∀ {r r' : Run ServiceError Bytes} (input : Buffer),
    R r r' →
      R (Run.attempt r >>= Service.recovered input) (Run.attempt r' >>= Service.recovered input)

namespace Run.Congruence

variable {R : ∀ {α : Type}, Run ServiceError α → Run ServiceError α → Prop} (hR : Congruence R)
  {s s' : Service} {input : Buffer}
include hR

theorem map {α β : Type} {r r' : Run ServiceError α} (h : R r r') (f : α → β) :
    R (r >>= fun a => Pure.pure (f a)) (r' >>= fun a => Pure.pure (f a)) :=
  hR.bind h fun a => hR.pure (f a)

theorem pcmBehind (hdecode : R (s.audioToPcm input) (s'.audioToPcm input)) :
    R (s.pcmBehind input) (s'.pcmBehind input) := by
  rw [Service.pcmBehind_eq, Service.pcmBehind_eq]
  exact hR.recovered input hdecode

theorem encodeVoice (hpcm : R (s.pcmBehind input) (s'.pcmBehind input))
    (hencode : ∀ pcm, R (s.silkEncode pcm) (s'.silkEncode pcm)) :
    R (s.encodeVoice input) (s'.encodeVoice input) := by
  refine hR.within _ (hR.bind hpcm fun pcm => ?_)
  refine hR.bind (hencode _) fun silk => ?_
  exact hR.bind (hR.event _ rfl) fun _ => hR.pure _

/-- Every request is related as soon as the calls of the two dispatchers are. -/
theorem perform (hcall : ∀ (c : Dispatch) input,
      R (Run.mapError .codec (c.perform s.dispatcher input))
        (Run.mapError .codec (c.perform s'.dispatcher input)))
    (r : Request) (input : Buffer) : R (r.perform s input) (r.perform s' input) := by
  have hstream : ∀ op input, R (s.dispatch op input) (s'.dispatch op input) :=
    fun op input => hR.within _ (hcall (.chunks op.operation) (.ofBuffer input))
  have hjoined : ∀ op input, R (s.dispatch op input >>= fun stream => Pure.pure stream.concat)
      (s'.dispatch op input >>= fun stream => Pure.pure stream.concat) :=
    fun op input => hR.map (hstream op input) _
  have hframe : R (s.videoFirstFrame input) (s'.videoFirstFrame input) :=
    hR.within _ (hcall .frame (.ofBuffer input))
  have hsize : R (s.videoGetSize input) (s'.videoGetSize input) :=
    hR.within _ (hcall .size (.ofBuffer input))
  cases r with
  | audioToPcm => exact hR.map (hjoined .audioToPcm input) _
  | audioToPcmChunks => exact hR.map (hstream .audioToPcm input) _
  | silkDecode => exact hR.map (hjoined .silkDecode input) _
  | silkDecodeChunks => exact hR.map (hstream .silkDecode input) _
  | silkEncode => exact hR.map (hjoined .silkEncode input) _
  | silkEncodeChunks => exact hR.map (hstream .silkEncode input) _
  | videoFirstFrame => exact hR.map hframe _
  | videoGetSize => exact hR.map hsize _
  | audioToMonoPcm => exact hR.map (hR.map (hjoined .audioToPcm input) _) _
  | silkDecodePcm => exact hR.map (hR.map (hjoined .silkDecode input) _) _
  | encodeVoice =>
      have hpcm := hR.pcmBehind (hjoined .audioToPcm input)
      exact hR.map (hR.encodeVoice hpcm (hjoined .silkEncode)) _
  | videoPreview =>
      refine hR.map (hR.bind hsize fun metadata => ?_) _
      exact hR.map hframe _

/-- A use of a handle under two sets of options is related as soon as the calls of the dispatchers
are; a close looks at no options. -/
theorem use (hbackground : ∀ {α : Type} {r r' : Run ServiceError α},
      R r r' → R (Service.background r) (Service.background r'))
    {h : Handle} {f g : DispatchOptions → DispatchOptions}
    (hcall : ∀ (c : Dispatch) o input, R (Run.mapError .codec (c.perform ⟨h, f o⟩ input))
      (Run.mapError .codec (c.perform ⟨h, g o⟩ input)))
    (hclose : R h.close h.close) (u : Use) :
    R ((u.mapOptions f).perform h) ((u.mapOptions g).perform h) := by
  have hrequest : ∀ o (r : Request) input,
      R (r.perform (.ofHandle h (f o)) input) (r.perform (.ofHandle h (g o)) input) :=
    fun o r input => hR.perform (fun c input => hcall c o input) r input
  cases u with
  | dispatchChunks o op input => exact hR.map (hcall (.chunks op) o input) _
  | firstFrame o input => exact hR.map (hcall .frame o input) _
  | videoSize o input => exact hR.map (hcall .size o input) _
  | request o r input => exact hR.map (hrequest o r input) _
  | background o r input => exact hR.map (hbackground (hrequest o r input)) _
  | closeHandle | closeService o => exact hR.map hclose _

end Run.Congruence

/-! ## Parallels -/

/-- Two ends of one kind, with related errors or related answers. -/
inductive Attempt.Parallel (E : ε → ε → Prop) (A : α → α → Prop) :
    Attempt ε α → Attempt ε α → Prop
  | ok {a b : α} (related : A a b) : Parallel E A (.ok a) (.ok b)
  | error {e f : ε} (related : E e f) : Parallel E A (.error e) (.error f)
  | panic : Parallel E A .panic .panic

namespace Attempt.Parallel

variable {E : ε → ε → Prop}

theorem refl (hE : ∀ e, E e e) {A : α → α → Prop} (hA : ∀ a, A a a) (r : Attempt ε α) :
    r.Parallel E A r := by
  cases r with
  | ok a => exact .ok (hA a)
  | error e => exact .error (hE e)
  | panic => exact .panic

theorem eq {r r' : Attempt ε α} (h : r.Parallel Eq Eq r') : r = r' := by
  cases h with
  | ok related => rw [related]
  | error related => rw [related]
  | panic => rfl

theorem mapError {F : δ → δ → Prop} {f : ε → δ} (hf : ∀ e e', E e e' → F (f e) (f e'))
    {A : α → α → Prop} {r r' : Attempt ε α} (h : r.Parallel E A r') :
    (r.mapError f).Parallel F A (r'.mapError f) := by
  cases h with
  | ok related => exact .ok related
  | error related => exact .error (hf _ _ related)
  | panic => exact .panic

end Attempt.Parallel

/-- Two runs make the same calls, end in parallel, and leave related processes. -/
structure Ran.Parallel (S : State → State → Prop) (E : ε → ε → Prop) (A : α → α → Prop)
    (r r' : Ran ε α) : Prop where
  result : r.result.Parallel E A r'.result
  calls : r'.journal.calls = r.journal.calls
  after : S r.after r'.after

/-- From related processes two computations run in parallel. -/
def Run.Parallel (S : State → State → Prop) (E : ε → ε → Prop) (A : α → α → Prop)
    (r r' : Run ε α) : Prop :=
  ∀ p q, S p q → (r p).Parallel S E A (r' q)

/-- Related processes have made the same calls, and making another call, or beginning a thread,
leaves them related. -/
structure State.Steady (S : State → State → Prop) : Prop where
  past : ∀ {p q}, S p q → q.past = p.past
  called : ∀ {p q} (c : Call), S p q → S (p.called c) (q.called c)
  threaded : ∀ {p q}, S p q →
    S { p with threads := p.threads + 1 } { q with threads := q.threads + 1 }

theorem State.Steady.equal : State.Steady Eq where
  past h := congrArg State.past h.symm
  called c h := congrArg (State.called · c) h
  threaded h := h ▸ rfl

theorem Ran.ComesTo.mapError {r : Run ε α} {result : Attempt ε α} {cs : List Call} {p q : State}
    (f : ε → δ) (h : (r p).ComesTo result cs q) :
    (Run.mapError f r p).ComesTo (result.mapError f) cs q :=
  ⟨congrArg (Attempt.mapError f) h.result, h.calls, h.after⟩

/-- Runs that come to related ends by the same calls are parallel. -/
theorem Ran.ComesTo.parallel {S : State → State → Prop} {E : ε → ε → Prop} {A : α → α → Prop}
    {r r' : Ran ε α} {result result' : Attempt ε α} {cs : List Call} {p q : State}
    (h : r.ComesTo result cs p) (h' : r'.ComesTo result' cs q)
    (hresult : result.Parallel E A result') (hpq : S p q) : r.Parallel S E A r' := by
  refine ⟨?_, h'.calls.trans h.calls.symm, ?_⟩
  · rw [h.result, h'.result]
    exact hresult
  · rw [h.after, h'.after]
    exact hpq

namespace Run.Parallel

variable {S : State → State → Prop} {E : ε → ε → Prop} {A : α → α → Prop} {B : β → β → Prop}

theorem pure {a b : α} (h : A a b) :
    Run.Parallel S E A (Pure.pure a : Run ε α) (Pure.pure b) :=
  fun _ _ hpq => ⟨.ok h, rfl, hpq⟩

theorem fail {e f : ε} (h : E e f) : Run.Parallel S E A (Run.fail e : Run ε α) (Run.fail f) :=
  fun _ _ hpq => ⟨.error h, rfl, hpq⟩

theorem bind {r r' : Run ε α} {f f' : α → Run ε β} (hr : Run.Parallel S E A r r')
    (hf : ∀ a b, A a b → Run.Parallel S E B (f a) (f' b)) :
    Run.Parallel S E B (r >>= f) (r' >>= f') := by
  intro p q hpq
  obtain ⟨hresult, hcalls, hafter⟩ := hr p q hpq
  generalize hran : (r p).result = end₁ at hresult
  generalize hran' : (r' q).result = end₂ at hresult
  cases hresult with
  | ok related =>
      obtain ⟨hresult, hcalls', hafter'⟩ := hf _ _ related _ _ hafter
      rw [bind_of_ok hran, bind_of_ok hran']
      refine ⟨hresult, ?_, hafter'⟩
      rw [Ran.journal_prepend, Ran.journal_prepend, Journal.calls_append, Journal.calls_append,
        hcalls, hcalls']
  | error related =>
      rw [bind_of_error hran, bind_of_error hran']
      exact ⟨.error related, hcalls, hafter⟩
  | panic =>
      rw [bind_of_panic hran, bind_of_panic hran']
      exact ⟨.panic, hcalls, hafter⟩

theorem map {r r' : Run ε α} (hr : Run.Parallel S E A r r') {f g : α → β}
    (hfg : ∀ a b, A a b → B (f a) (g b)) :
    Run.Parallel S E B (r >>= fun a => Pure.pure (f a)) (r' >>= fun a => Pure.pure (g a)) :=
  hr.bind fun a b hab => pure (hfg a b hab)

theorem within {r r' : Run ε α} (s : Span) (hr : Run.Parallel S E A r r') :
    Run.Parallel S E A (Run.within s r) (Run.within s r') := by
  intro p q hpq
  obtain ⟨hresult, hcalls, hafter⟩ := hr p q hpq
  refine ⟨hresult, ?_, hafter⟩
  rw [within_apply, within_apply, Journal.calls_within, Journal.calls_within, hcalls]

theorem mapError {r r' : Run ε α} {F : δ → δ → Prop} {f : ε → δ}
    (hf : ∀ e e', E e e' → F (f e) (f e')) (hr : Run.Parallel S E A r r') :
    Run.Parallel S F A (Run.mapError f r) (Run.mapError f r') := by
  intro p q hpq
  obtain ⟨hresult, hcalls, hafter⟩ := hr p q hpq
  exact ⟨hresult.mapError hf, hcalls, hafter⟩

end Run.Parallel

section Services

variable {S : State → State → Prop} {E F : ServiceError → ServiceError → Prop}

/-- What follows a decoding looks at an error only so far as the codec reported it, and passes on
what it did not report. -/
theorem Run.Parallel.recovered_of_parallel (hE : ∀ e e', E e e' → e.reported? = e'.reported?)
    (hF : ∀ e e', E e e' → e.reported? = none → F e e') (input : Buffer)
    {x y : Attempt ServiceError Bytes} (hxy : x.Parallel E Eq y) :
    Run.Parallel S F Eq (Service.recovered input x) (Service.recovered input y) := by
  cases hxy with
  | ok related => exact related ▸ .pure rfl
  | panic => exact fun _ _ hpq => ⟨.panic, rfl, hpq⟩
  | @error e e' related =>
      rw [Service.recovered, Service.recovered, ← hE _ _ related]
      cases hreported : e.reported? with
      | some code => exact fun _ _ hpq => ⟨.ok rfl, rfl, hpq⟩
      | none => exact .fail (hF _ _ related hreported)

theorem Run.Parallel.recovered (hE : ∀ e e', E e e' → e.reported? = e'.reported?)
    (hF : ∀ e e', E e e' → e.reported? = none → F e e') {r r' : Run ServiceError Bytes}
    (input : Buffer) (hr : Run.Parallel S E Eq r r') :
    Run.Parallel S F Eq (Run.attempt r >>= Service.recovered input)
      (Run.attempt r' >>= Service.recovered input) := by
  intro p q hpq
  obtain ⟨hresult, hcalls, hafter⟩ := hr p q hpq
  obtain ⟨hresult', hcalls', hafter'⟩ := recovered_of_parallel hE hF input hresult _ _ hafter
  rw [Run.attempt_bind_apply, Run.attempt_bind_apply]
  refine ⟨hresult', ?_, hafter'⟩
  rw [Ran.journal_prepend, Ran.journal_prepend, Journal.calls_append, Journal.calls_append, hcalls,
    hcalls']

theorem Run.Parallel.congruence (hE : ∀ e e', E e e' → e.reported? = e'.reported?) :
    Run.Congruence (@fun _ r r' => Run.Parallel S E Eq r r') where
  pure _ := .pure rfl
  event _ _ _ _ hpq := ⟨.ok rfl, rfl, hpq⟩
  bind hr hf := hr.bind fun a _ hab => hab ▸ hf a
  within s hr := hr.within s
  recovered := Run.Parallel.recovered hE fun _ _ h _ => h

/-- In the background two operations stay parallel; a panic becomes the same error in both. -/
theorem Run.Parallel.background (hS : State.Steady S) (hE : ∀ e, E e e) {A : α → α → Prop}
    {r r' : Run ServiceError α} (hr : Run.Parallel S E A r r') :
    Run.Parallel S E A (Service.background r) (Service.background r') := by
  intro p q hpq
  obtain ⟨hresult, hcalls, hafter⟩ := hr _ _ (hS.threaded hpq)
  rw [Service.background, Service.background, Run.attempt_bind_apply, Run.attempt_bind_apply,
    Run.onNewThread_apply, Run.onNewThread_apply]
  generalize (r { p with threads := p.threads + 1 }).result = end₁ at hresult
  generalize (r' { q with threads := q.threads + 1 }).result = end₂ at hresult
  have hjournal : ∀ n m, ((r' { q with threads := q.threads + 1 }).journal.onThread n ++ []).calls =
      ((r { p with threads := p.threads + 1 }).journal.onThread m ++ []).calls := by
    intro n m
    rw [List.append_nil, List.append_nil, Journal.calls_onThread, Journal.calls_onThread, hcalls]
  cases hresult with
  | ok related => exact ⟨.ok related, hjournal _ _, hafter⟩
  | error related => exact ⟨.error related, hjournal _ _, hafter⟩
  | panic => exact ⟨.error (hE _), hjournal _ _, hafter⟩

end Services

/-! ## The calls of two dispatchers -/

/-- Asked the same, the backends of two dispatchers end their calls alike, and related results are
made of what they answered. -/
structure Dispatch.Matches (c : Dispatch) (E : CodecError → CodecError → Prop)
    (A : c.Output → c.Output → Prop) (d d' : Dispatcher) : Prop where
  unanswered : ∀ past bytes, c.answer? d.handle.backend past bytes = none →
    c.answer? d'.handle.backend past bytes = none
  answered : ∀ past bytes a, c.answer? d.handle.backend past bytes = some a →
    ∃ a', c.answer? d'.handle.backend past bytes = some a' ∧ a'.ending = a.ending ∧
      ∀ code, a.ending = .status code →
        (c.concluded d.options a code).Parallel E A (c.concluded d'.options a' code)

/-- Two dispatchers run in parallel if they refuse the same inputs, find their handles closed at the
same times, and match in what is made of their backends' answers. -/
theorem Dispatch.parallel_perform {S : State → State → Prop} (hS : State.Steady S)
    {E : CodecError → CodecError → Prop} (hE : ∀ e, E e e) {c : Dispatch}
    {A : c.Output → c.Output → Prop} {d d' : Dispatcher} {input : MediaBuffer}
    (hfault : input.fault? d'.options.maxInputBytes = input.fault? d.options.maxInputBytes)
    (hflag : ∀ p q, S p q → q.hasClosed d'.handle = p.hasClosed d.handle)
    (hmatch : c.Matches E A d d') :
    Run.Parallel S E A (c.perform d input) (c.perform d' input) := by
  intro p q hpq
  cases hf : input.fault? d.options.maxInputBytes with
  | some f =>
      rw [hf] at hfault
      exact (course_of_fault hf).comesTo.parallel (course_of_fault hfault).comesTo
        (.error (hE _)) hpq
  | none =>
  rw [hf] at hfault
  have hclosed' := hflag p q hpq
  cases hclosed : p.hasClosed d.handle with
  | true =>
      rw [hclosed] at hclosed'
      exact (course_of_closed hf hclosed).comesTo.parallel
        (course_of_closed hfault hclosed').comesTo (.error (hE _)) hpq
  | false =>
  rw [hclosed] at hclosed'
  have hpast := hS.past hpq
  cases hanswer : c.answer? d.handle.backend p.past input.data.toBytes with
  | none =>
      have hanswer' := hmatch.unanswered _ _ hanswer
      rw [← hpast] at hanswer'
      exact (course_of_unanswered hf hclosed hanswer).comesTo.parallel
        (course_of_unanswered hfault hclosed' hanswer').comesTo (.error (hE _)) hpq
  | some a =>
  obtain ⟨a', hanswer', hending', hconcluded⟩ := hmatch.answered _ _ _ hanswer
  rw [← hpast] at hanswer'
  have hcalled := hS.called (.invoke c.operation input.data.toBytes) hpq
  cases hending : a.ending with
  | panic =>
      exact (course_of_panic hf hclosed hanswer hending).comesTo.parallel
        (course_of_panic hfault hclosed' hanswer' (hending'.trans hending)).comesTo .panic hcalled
  | status code =>
      exact (course_of_status hf hclosed hanswer hending).comesTo.parallel
        (course_of_status hfault hclosed' hanswer' (hending'.trans hending)).comesTo
        (hconcluded code hending) hcalled

/-- Two services on handles that are closed together, with the same limit on inputs. -/
theorem Service.parallel_dispatch {s s' : Service} {op : Streaming} {input : Buffer}
    {E : CodecError → CodecError → Prop} {F : ServiceError → ServiceError → Prop}
    {A : ChunkStream → ChunkStream → Prop} (hid : s'.handle.id = s.handle.id)
    (hlimit : s'.dispatcher.options.maxInputBytes = s.dispatcher.options.maxInputBytes)
    (hE : ∀ e, E e e) (hF : ∀ e f, E e f → F (.codec e) (.codec f))
    (hmatch : (Dispatch.chunks op.operation).Matches E A s.dispatcher s'.dispatcher) :
    Run.Parallel Eq F A (s.dispatch op input) (s'.dispatch op input) := by
  have hflag : ∀ p q : State, p = q →
      q.hasClosed s'.dispatcher.handle = p.hasClosed s.dispatcher.handle := by
    rintro p _ rfl
    exact congrArg p.closed.contains hid
  have hfault : ∀ m : MediaBuffer, m.fault? s'.dispatcher.options.maxInputBytes =
      m.fault? s.dispatcher.options.maxInputBytes := fun m => congrArg m.fault? hlimit
  refine .within _ (.mapError hF ?_)
  exact Dispatch.parallel_perform .equal hE (hfault _) hflag hmatch

/-! ## Two histories -/

namespace History

/-- Two histories that perform the same list of requests, each in a version of its own: what every
request does from related processes, it does along the whole of them. -/
theorem forall₂_run {perform : ι → Run ε α} {perform' : ι' → Run δ β} {S : State → State → Prop}
    {G : Episode ι ε α → Episode ι' δ β → Prop} {f : κ → ι} {f' : κ → ι'}
    (hstep : ∀ k p q, S p q → G ⟨f k, p, perform (f k) p⟩ ⟨f' k, q, perform' (f' k) q⟩ ∧
      S (perform (f k) p).after (perform' (f' k) q).after)
    {p q : State} (hpq : S p q) (ks : List κ) :
    List.Forall₂ G (run perform (ks.map f) p) (run perform' (ks.map f') q) := by
  induction ks generalizing p q with
  | nil => exact .nil
  | cons k rest ih =>
      obtain ⟨hhead, hafter⟩ := hstep k p q hpq
      exact .cons hhead (ih hafter)

end History

end MediaCodec
