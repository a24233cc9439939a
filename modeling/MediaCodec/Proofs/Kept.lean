/-
Kept chunks — where the chunks of an error come from.

An error of the backend carries chunks, or none, and says which operation failed; which call it was
it does not say.  An operation can make two calls, and the first of them may have failed and been
recovered from.  So a run has to account for its calls (`Run.Accounts`): they are what it adds to
the past of the process, and if it ends in an error of the backend, then that was the answer to the
last of them, and carries what the policy leaves of what was handed over in that call.  A recovery
keeps this, for it passes on only such errors as the codec has not reported.

Only a use of a handle answers with such an error.  The entry points for C callers turn theirs into
statuses, and what a process shares fails before there is a backend to report anything; the cell
has to hold no other failure, which is so in every process that began with an empty one
(`State.Honest`).

With that, one run under each policy is compared step by step (`History.apart_run`).
-/

import MediaCodec.Proofs.Policy

namespace MediaCodec

/-! ## Where the chunks of an error come from -/

/-- The chunks of a failed call that a policy leaves. -/
def PartialResults.spared (chunks : List Bytes) : PartialResults → List Bytes
  | discard => []
  | preserve => chunks

/-- The chunks that a backend hands over in a call. -/
def Backend.handedOver (b : Backend) (past : List Call) (bytes : Bytes) : Operation → List Bytes
  | .audioToPcm => (b.stream .audioToPcm past bytes).chunks
  | .silkDecode => (b.stream .silkDecode past bytes).chunks
  | .silkEncode => (b.stream .silkEncode past bytes).chunks
  | .videoFirstFrame => (b.firstFrame past bytes).chunks
  | .videoGetSize => []

theorem Dispatch.handedOver_eq {c : Dispatch} {b : Backend} {past : List Call} {bytes : Bytes}
    {a : Answer} (h : c.answer? b past bytes = some a) :
    b.handedOver past bytes c.operation = a.chunks := by
  cases c with
  | chunks op =>
      obtain ⟨s, hs, rfl⟩ := Option.map_eq_some_iff.mp h
      cases op with
      | audioToPcm | silkDecode | silkEncode =>
          obtain rfl := Option.some.inj hs
          rfl
      | videoFirstFrame | videoGetSize => cases hs
  | frame | size =>
      obtain rfl := Option.some.inj h
      rfl

/-- The calls of a run are what it adds to the past; and if it ends in an error of the backend, this
was the answer of the last of them, and carries what the policy leaves of its chunks. -/
structure Ran.Accounts (b : Backend) (π : PartialResults) (p : State) (r : Ran ServiceError α) :
    Prop where
  past : r.after.past = p.past ++ r.journal.calls
  chunks : ∀ op code kept, r.result = .error (.codec (.backend op code kept)) →
    ∃ cs bytes, r.journal.calls = cs ++ [.invoke op bytes] ∧
      kept = π.spared (b.handedOver (p.past ++ cs) bytes op)

def Run.Accounts (b : Backend) (π : PartialResults) (r : Run ServiceError α) : Prop :=
  ∀ p, (r p).Accounts b π p

section Accounts

variable {b : Backend} {π : PartialResults}

/-- A run that makes no error of the backend has only its calls to account for. -/
theorem Ran.ComesTo.accounts {p q : State} {r : Ran ServiceError α}
    {result : Attempt ServiceError α} {cs : List Call} (h : r.ComesTo result cs q) (hpast : q.past = p.past ++ cs)
    (hresult : ∀ op code kept, result ≠ .error (.codec (.backend op code kept))) :
    r.Accounts b π p := by
  obtain ⟨hran, hcalls, hafter⟩ := h
  refine ⟨?_, ?_⟩
  · rw [hcalls, hafter, hpast]
  · intro op code kept herror
    exact absurd (hran.symm.trans herror) (hresult op code kept)

namespace Run.Accounts

theorem bind {r : Run ServiceError α} {f : α → Run ServiceError β} (hr : r.Accounts b π)
    (hf : ∀ a, (f a).Accounts b π) : (r >>= f).Accounts b π := by
  intro p
  obtain ⟨hpast, hchunks⟩ := hr p
  cases h : (r p).result with
  | error e =>
      rw [bind_of_error h]
      refine ⟨hpast, fun op code kept herror => hchunks op code kept ?_⟩
      obtain rfl := Attempt.error.inj herror
      exact h
  | panic =>
      rw [bind_of_panic h]
      exact ⟨hpast, fun _ _ _ h => absurd h Attempt.panic_ne_error⟩
  | ok a =>
      obtain ⟨hpast', hchunks'⟩ := hf a (r p).after
      rw [bind_of_ok h]
      refine ⟨?_, ?_⟩
      · rw [Ran.after_prepend, Ran.journal_prepend, Journal.calls_append, hpast', hpast,
          List.append_assoc]
      · intro op code kept herror
        obtain ⟨cs, bytes, hcalls, hkept⟩ := hchunks' op code kept herror
        refine ⟨(r p).journal.calls ++ cs, bytes, ?_, ?_⟩
        · rw [Ran.journal_prepend, Journal.calls_append, hcalls, List.append_assoc]
        · rw [hkept, hpast, List.append_assoc]

theorem within {r : Run ServiceError α} (s : Span) (hr : r.Accounts b π) :
    (Run.within s r).Accounts b π := by
  intro p
  obtain ⟨hpast, hchunks⟩ := hr p
  refine ⟨?_, ?_⟩
  · rw [within_apply, Journal.calls_within]
    exact hpast
  · rw [within_apply, Journal.calls_within]
    exact hchunks

/-- What the codec reported of a decoding is not answered with. -/
theorem recovered {r : Run ServiceError Bytes} (input : Buffer) (hr : r.Accounts b π) :
    (Run.attempt r >>= Service.recovered input).Accounts b π := by
  intro p
  obtain ⟨hpast, -⟩ := hr p
  have hrest : ∀ q, (Service.recovered input (r p).result q).ComesTo
      (Service.recovered input (r p).result q).result [] q ∧
      ∀ op code kept, (Service.recovered input (r p).result q).result ≠
        .error (.codec (.backend op code kept)) := by
    intro q
    cases (r p).result with
    | ok data => exact ⟨⟨rfl, rfl, rfl⟩, fun _ _ _ => Attempt.ok_ne_error⟩
    | panic => exact ⟨⟨rfl, rfl, rfl⟩, fun _ _ _ => Attempt.panic_ne_error⟩
    | error e =>
        cases hreported : e.reported? with
        | some code =>
            simp only [Service.recovered, hreported]
            exact ⟨⟨rfl, rfl, rfl⟩, fun _ _ _ => Attempt.ok_ne_error⟩
        | none =>
            simp only [Service.recovered, hreported]
            refine ⟨⟨rfl, rfl, rfl⟩, fun op code kept h => ?_⟩
            obtain rfl := Attempt.error.inj h
            cases hreported
  obtain ⟨hcomes, hresult⟩ := hrest (r p).after
  have hattempt : (Run.attempt r p : Ran ServiceError _).ComesTo (.ok (r p).result)
      (r p).journal.calls (r p).after := ⟨rfl, rfl, rfl⟩
  exact (hattempt.bind_silent hcomes).accounts hpast hresult

theorem congruence : Congruence (@fun _ r _ => Run.Accounts b π r) where
  pure _ _ := ⟨(List.append_nil _).symm, fun _ _ _ h => absurd h Attempt.ok_ne_error⟩
  event _ _ _ := ⟨(List.append_nil _).symm, fun _ _ _ h => absurd h Attempt.ok_ne_error⟩
  bind := bind
  within := within
  recovered := recovered

theorem background {r : Run ServiceError α} (hr : r.Accounts b π) :
    (Service.background r).Accounts b π := by
  intro p
  obtain ⟨hpast, hchunks⟩ := hr { p with threads := p.threads + 1 }
  have hcalls : ∀ n, ((r { p with threads := p.threads + 1 }).journal.onThread n ++ []).calls =
      (r { p with threads := p.threads + 1 }).journal.calls := by
    intro n
    rw [List.append_nil, Journal.calls_onThread]
  rw [Service.background, attempt_bind_apply, onNewThread_apply]
  cases hran : (r { p with threads := p.threads + 1 }).result with
  | ok a =>
      refine ⟨hpast.trans (congrArg _ (hcalls _).symm), fun _ _ _ h => ?_⟩
      exact absurd h Attempt.ok_ne_error
  | panic =>
      -- The error of a lost task is none of the backend.
      refine ⟨hpast.trans (congrArg _ (hcalls _).symm), fun _ _ _ h => ?_⟩
      cases h
  | error e =>
      refine ⟨hpast.trans (congrArg _ (hcalls _).symm), fun op code kept herror => ?_⟩
      obtain rfl := Attempt.error.inj herror
      obtain ⟨cs, bytes, hcs, hkept⟩ := hchunks op code kept hran
      exact ⟨cs, bytes, (hcalls _).trans hcs, hkept⟩

end Run.Accounts

theorem Dispatcher.kept_eq (o : DispatchOptions) (chunks : List Bytes) :
    kept o chunks = o.partialResults.spared chunks := by
  unfold kept
  cases o.partialResults <;> rfl

theorem Dispatch.accounts_perform (c : Dispatch) (h : Handle) (o : DispatchOptions)
    (input : MediaBuffer) :
    (Run.mapError .codec (c.perform ⟨h, o.under π⟩ input)).Accounts h.backend π := by
  intro p
  have hnothing : p.past = p.past ++ [] := (List.append_nil _).symm
  cases hfault : input.fault? o.maxInputBytes with
  | some f =>
      have hran := course_of_fault (c := c) (d := ⟨h, o.under π⟩) (p := p) hfault
      exact (hran.comesTo.mapError _).accounts hnothing fun _ _ _ h => by cases h
  | none =>
  cases hclosed : p.hasClosed h with
  | true =>
      have hran := course_of_closed (c := c) (d := ⟨h, o.under π⟩) hfault hclosed
      exact (hran.comesTo.mapError _).accounts hnothing fun _ _ _ h => by cases h
  | false =>
  cases hanswer : c.answer? h.backend p.past input.data.toBytes with
  | none =>
      have hran := course_of_unanswered (d := ⟨h, o.under π⟩) hfault hclosed hanswer
      exact (hran.comesTo.mapError _).accounts hnothing fun _ _ _ h => by cases h
  | some a =>
  cases hending : a.ending with
  | panic =>
      have hran := course_of_panic (d := ⟨h, o.under π⟩) hfault hclosed hanswer hending
      exact (hran.comesTo.mapError _).accounts rfl fun _ _ _ => Attempt.panic_ne_error
  | status code =>
      have hran := course_of_status (d := ⟨h, o.under π⟩) hfault hclosed hanswer hending
      obtain ⟨hresult, hcalls, hafter⟩ := hran.comesTo.mapError ServiceError.codec
      refine ⟨?_, ?_⟩
      · rw [hcalls, hafter]
        rfl
      · intro op code' kept herror
        have hconcluded := hresult.symm.trans herror
        rcases c.concluded_cases (o.under π) a code with ⟨v, h⟩ | ⟨-, -, -, h⟩ | h
        · rw [h] at hconcluded
          cases hconcluded
        · rw [h] at hconcluded
          cases hconcluded
        · rw [h] at hconcluded
          cases hconcluded
          refine ⟨[], input.data.toBytes, hcalls, ?_⟩
          rw [Dispatcher.kept_eq, List.append_nil, handedOver_eq hanswer]
          rfl

theorem Handle.accounts_close (h : Handle) : h.close.Accounts b π := by
  intro p
  cases hclosed : p.hasClosed h with
  | true =>
      rw [close_of_closed hclosed]
      exact ⟨(List.append_nil _).symm, fun _ _ _ h => absurd h Attempt.ok_ne_error⟩
  | false => exact (close_of_open hclosed).accounts rfl fun _ _ _ => Attempt.ok_ne_error

theorem Use.accounts_perform (u : Use) (h : Handle) :
    ((u.mapOptions (DispatchOptions.under π)).perform h).Accounts h.backend π :=
  Run.Accounts.congruence.use Run.Accounts.background
    (g := DispatchOptions.under π) (fun c o input => c.accounts_perform h o input)
    h.accounts_close u

end Accounts

/-! ## The steps of a process -/

/-- What an honest process shares, if it is an error, is a failure to open. -/
theorem State.Honest.unopened_of_shared {p : State} (h : p.Honest)
    {config : Except SetupError Config} {e : CodecError} (he : p.shared config = .error e) :
    e.Unopened := by
  cases hstored : p.cell.stored with
  | some r =>
      rw [shared, hstored] at he
      exact h e (hstored.trans (congrArg some he))
  | none =>
      rw [shared, hstored] at he
      exact Dispatcher.unopened_of_outcome he

/-- The computation always answers, and with no error. -/
def Run.Succeeds (r : Run ε α) : Prop := ∀ p, ∃ a, (r p).result = .ok a

theorem Run.Succeeds.map {r : Run ε α} (hr : r.Succeeds) (f : α → β) :
    (r >>= fun a => Pure.pure (f a)).Succeeds := by
  intro p
  obtain ⟨a, ha⟩ := hr p
  exact ⟨f a, by rw [result_map, ha]; rfl⟩

theorem Handle.succeeds_close (h : Handle) : (h.close : Run ε Bool).Succeeds := by
  intro p
  cases hclosed : p.hasClosed h with
  | true => exact ⟨false, by rw [close_of_closed hclosed]⟩
  | false => exact ⟨true, (close_of_open hclosed).result⟩

namespace Boundary

theorem succeeds_install (s : Service) : (install s : Run ε Bool).Succeeds := by
  intro p
  cases hslot : p.slot with
  | some old => exact ⟨false, by rw [install_of_some s hslot]⟩
  | none => exact ⟨true, by rw [install_of_none s hslot]⟩

theorem succeeds_start (dir : Option Bytes) : (start dir : Run ε Status).Succeeds := by
  intro p
  cases hdir : directory dir with
  | none => exact ⟨_, by rw [start_of_refused hdir]⟩
  | some d => exact ⟨_, (start_comesTo hdir).result⟩

theorem succeeds_close : (close : Run ε Status).Succeeds := by
  intro p
  rw [close, Run.get_bind_apply]
  cases p.slot with
  | none => exact ⟨Status.ok, rfl⟩
  | some s => exact s.handle.succeeds_close.map (fun _ => Status.ok) p

end Boundary

theorem CodecCall.succeeds_perform (c : CodecCall) : (c.perform : Run ε _).Succeeds := by
  intro p
  cases hlacks : c.lacksPointer with
  | true => exact ⟨_, by rw [perform_of_lacksPointer hlacks]⟩
  | false => exact ⟨_, (perform_comesTo hlacks p).result⟩

namespace Step

variable {π : PartialResults} {k : Step} {p : State} {op : Operation} {code : Status}
  {kept : List Bytes}

/-- Only a use of a handle answers with an error of the backend. -/
theorem exists_use_of_backend (hp : p.Honest)
    (h : (k.perform p).result = .error (.codec (.backend op code kept))) :
    ∃ handle u, k = use handle u := by
  have hshared : ∀ config,
      (Attempt.ofExcept (Service.ofShared (p.shared config))).map Reply.service ≠
        .error (.codec (.backend op code kept)) := by
    intro config herror
    cases hs : p.shared config with
    | ok d =>
        rw [hs] at herror
        cases herror
    | error e =>
        rw [hs] at herror
        have hunopened := hp.unopened_of_shared hs
        cases herror
        cases hunopened
  have hsucceeds : ∀ {r : Run ServiceError Reply}, r.Succeeds →
      (r p).result ≠ .error (.codec (.backend op code kept)) := by
    intro r hr herror
    obtain ⟨a, ha⟩ := hr p
    rw [ha] at herror
    cases herror
  cases k with
  | use handle u => exact ⟨handle, u, rfl⟩
  | global =>
      have hmap := Run.result_map Service.global Reply.service p
      rw [(Service.global_comesTo p).result] at hmap
      exact absurd (hmap.symm.trans h) (hshared _)
  | initGlobal c =>
      have hmap := Run.result_map (Service.initGlobal c) Reply.service p
      rw [(Service.initGlobal_comesTo c p).result] at hmap
      exact absurd (hmap.symm.trans h) (hshared _)
  | install s => exact absurd h (hsucceeds ((Boundary.succeeds_install s).map _))
  | init dir => exact absurd h (hsucceeds ((Boundary.succeeds_start dir).map _))
  | close => exact absurd h (hsucceeds (Boundary.succeeds_close.map _))
  | codec c =>
      rw [perform_codec] at h
      exact absurd h (hsucceeds (c.succeeds_perform.map _))
  | setVariable name value => cases h

/-- An error of the backend carries what the policy leaves of the chunks that the failed call handed
over, and that call was the last one. -/
theorem accounts_perform (hp : p.Honest)
    (h : ((k.under π).perform p).result = .error (.codec (.backend op code kept))) :
    ∃ handle u cs bytes, k.under π = use handle u ∧
      ((k.under π).perform p).journal.calls = cs ++ [.invoke op bytes] ∧
      kept = π.spared (handle.backend.handedOver (p.past ++ cs) bytes op) := by
  obtain ⟨handle, v, hv⟩ := exists_use_of_backend hp h
  cases k with
  | use handle' u =>
      obtain ⟨rfl, rfl⟩ := Step.use.inj hv
      have huse := u.accounts_perform (π := π) handle' p
      have hperform : ((use handle' u).under π).perform =
          ((u.mapOptions (DispatchOptions.under π)).perform handle' >>= fun a =>
            pure (.answer a)) := rfl
      rw [hperform, Run.map_apply] at h ⊢
      obtain ⟨cs, bytes, hcalls, hkept⟩ := huse.chunks op code kept (Attempt.map_eq_error_iff.mp h)
      exact ⟨handle', _, cs, bytes, rfl, hcalls, hkept⟩
  | global | initGlobal c | install s | init dir | close | codec c | setVariable name value =>
      cases hv

end Step

/-! ## A run under each policy -/

/-- What one step does in two runs, the first where partial results are dropped and the second where
they are kept. -/
structure Step.Apart (e e' : Episode Step ServiceError Reply) : Prop where
  asked : e'.asked = e.asked.under .preserve
  calls : e'.calls = e.calls
  flag : ∀ h : Handle, e'.after.hasClosed h = e.after.hasClosed h
  /-- Replies are equal but for the policy of a service, and errors but for their chunks. -/
  result : e.ran.result.Parallel ServiceError.SameButChunks (fun r s => s = r.under .preserve)
    e'.ran.result
  dropped : ∀ op code kept, e.ran.result = .error (.codec (.backend op code kept)) → kept = []
  /-- What is kept is all that was handed over in the call that failed, which was the last one. -/
  kept : ∀ op code kept, e'.ran.result = .error (.codec (.backend op code kept)) →
    ∃ h u cs bytes, e'.asked = .use h u ∧ e'.calls = cs ++ [.invoke op bytes] ∧
      kept = h.backend.handedOver (e'.before.past ++ cs) bytes op

theorem Step.apart_perform {p q : State} (hp : p.Honest) (hpq : p.IsUnder .preserve q) (k : Step) :
    Apart ⟨k.under .discard, p, (k.under .discard).perform p⟩
        ⟨k.under .preserve, q, (k.under .preserve).perform q⟩ ∧
      ((k.under .discard).perform p).after.Honest ∧
      ((k.under .discard).perform p).after.IsUnder .preserve
        ((k.under .preserve).perform q).after := by
  obtain ⟨hresult, hcalls, hafter⟩ := (k.under .discard).parallel_under (π := .preserve) p q hpq
  rw [under_under] at hresult hcalls hafter
  have hq : q.Honest := by
    rw [hpq]
    exact State.honest_under hp
  refine ⟨⟨k.under_under.symm, hcalls, hafter.hasClosed_eq, hresult, ?_, ?_⟩,
    honest_perform _ p hp, hafter⟩
  · intro op code kept herror
    obtain ⟨_, _, _, _, -, -, hkept⟩ := accounts_perform hp herror
    exact hkept
  · intro op code kept herror
    exact accounts_perform hq herror

namespace History

theorem Apart.calls_eq {es es' : History Step ServiceError Reply}
    (h : List.Forall₂ Step.Apart es es') : calls es' = calls es := by
  induction h with
  | nil => rfl
  | cons head _ ih => rw [calls_cons, calls_cons, head.calls, ih]

/-- In every run of a process the policy for partial results decides what the errors of the backend
carry, and nothing else: neither a call, nor whether a handle is closed, nor an answer, nor a
status, nor what is put into the memory of a C caller. -/
theorem apart_run {p : State} (hp : p.Honest) (ks : List Step) :
    List.Forall₂ Step.Apart (run Step.perform (ks.map (Step.under .discard)) (p.under .discard))
        (run Step.perform (ks.map (Step.under .preserve)) (p.under .preserve)) ∧
      calls (run Step.perform (ks.map (Step.under .preserve)) (p.under .preserve)) =
        calls (run Step.perform (ks.map (Step.under .discard)) (p.under .discard)) := by
  have hstart : (p.under .discard).Honest ∧
      (p.under .discard).IsUnder .preserve (p.under .preserve) :=
    ⟨State.honest_under hp, State.under_under p |>.symm⟩
  have hes := forall₂_run (S := fun p q => p.Honest ∧ p.IsUnder .preserve q)
    (fun k _ _ hpq => Step.apart_perform hpq.1 hpq.2 k) hstart ks
  exact ⟨hes, Apart.calls_eq hes⟩

end History

/-- A codec that decodes a first piece and then fails. -/
def Backend.failing : Backend where
  stream
    | .audioToPcm, _, bytes => { chunks := [bytes.take 1], ending := .status 7 }
    | _, _, bytes => { chunks := [bytes] }
  firstFrame _ bytes := { chunks := [bytes] }
  getSize _ _ := {}

/-- A run in which a decoding fails, once for itself and once within a voice message. -/
theorem History.apart_run_failing :
    let p : State := .fresh ⟨"/", ⟨"linux", "x86_64"⟩, ⟨true, fun _ _ => ⟨[], .ok .failing⟩⟩⟩ .empty
    let h : Handle := ⟨0, none, .failing⟩
    let ks : List Step :=
      [.global, .use h (.request {} .audioToPcm (.ofBytes [1, 2])),
       .use h (.request {} .encodeVoice (.ofBytes [1, 2])),
       .codec (.stream .audioToPcm ⟨some (.ofBytes [3, 4]), 2⟩ true), .close]
    p.Honest ∧
      List.Forall₂ Step.Apart (run Step.perform (ks.map (Step.under .discard)) (p.under .discard))
        (run Step.perform (ks.map (Step.under .preserve)) (p.under .preserve)) := by
  intro p h ks
  have hp : p.Honest := by
    intro e he
    cases he
  exact ⟨hp, (apart_run hp ks).1⟩

end MediaCodec
