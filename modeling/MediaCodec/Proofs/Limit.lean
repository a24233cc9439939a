/-
Limits — a smaller input limit cuts a run short and changes nothing else.

An input limit is looked at in one place, where a call of a dispatcher checks its input.  So under
the smaller of two limits a call is the same call, journal and all, unless the smaller limit is what
refuses it; and then it has not been made at all.

An operation of several calls meets the limit several times, also with what an earlier call handed
over.  The first refusal ends it.  That is not obvious for a voice message, which goes on after a
failed decoding; but it goes on only after a failure that the codec itself reported, and a refused
input is none.  So a run under the smaller limit is the run under the larger one, or a beginning of
it that ends in a refusal by the smaller limit (`Run.Curbed`), and this is a congruence.
-/

import MediaCodec.Proofs.Parallel

namespace MediaCodec

/-! ## Limits and the inputs that they refuse -/

/-- The first limit lets through no more than the second; without a limit everything is let
through. -/
def LimitAtMost (m m' : Option UInt64) : Prop :=
  ∀ max', m' = some max' → ∃ max, m = some max ∧ max ≤ max'

/-- The same options with this limit. -/
def DispatchOptions.limited (m : Option UInt64) (o : DispatchOptions) : DispatchOptions :=
  { o with maxInputBytes := m }

namespace LimitAtMost

variable {m m' : Option UInt64}

/-- Two limits find the same fault with an input, or the smaller one finds it too long. -/
theorem fault?_cases (h : LimitAtMost m m') (input : MediaBuffer) :
    input.fault? m = input.fault? m' ∨ ∃ max, m = some max ∧ max.toNat < input.length ∧
      input.fault? m = some (.overConfiguredLimit input.length max.toNat) := by
  -- The checks before the last one do not look at the limit.
  unfold MediaBuffer.fault?
  by_cases hempty : input.isEmpty = true
  · simp only [if_pos hempty, true_or]
  by_cases hdeclared : input.declaredLength ≠ input.length
  · simp only [if_neg hempty, if_pos hdeclared, true_or]
  by_cases hnative : input.length > Status.maxLength
  · simp only [if_neg hempty, if_neg hdeclared, if_pos hnative, true_or]
  simp only [if_neg hempty, if_neg hdeclared, if_neg hnative]
  cases m with
  | none =>
      cases m' with
      | none => exact .inl rfl
      | some max' =>
          obtain ⟨max, hmax, -⟩ := h max' rfl
          cases hmax
  | some max =>
      by_cases hlong : max.toNat < input.length
      · exact .inr ⟨max, rfl, hlong, if_pos hlong⟩
      · refine .inl ((if_neg hlong).trans ?_)
        cases m' with
        | none => rfl
        | some max' =>
            obtain ⟨max, hmax, hle⟩ := h max' rfl
            obtain rfl := Option.some.inj hmax
            have hle : max.toNat ≤ max'.toNat := hle
            exact (if_neg (by omega)).symm

end LimitAtMost

/-! ## Runs cut short -/

/-- The first run is the second, or it ends earlier: an input is refused for this limit. -/
inductive Ran.Curbed (limit : Option UInt64) (r r' : Ran ServiceError α) : Prop
  | same (eq : r = r')
  | refused {length : Nat} {max : UInt64} (limit : limit = some max) (long : max.toNat < length)
      (result : r.result = .error (.codec (.invalidInput (.overConfiguredLimit length max.toNat))))
      (calls : r.journal.calls <+: r'.journal.calls)

/-- From every state the first computation is cut short, if it differs from the second. -/
def Run.Curbed (limit : Option UInt64) (r r' : Run ServiceError α) : Prop :=
  ∀ p, (r p).Curbed limit (r' p)

namespace Run.Curbed

variable {limit : Option UInt64}

/-- What comes after a run adds to its calls. -/
theorem prefix_bind (r : Run ε α) (f : α → Run ε β) (p : State) :
    (r p).journal.calls <+: ((r >>= f) p).journal.calls := by
  cases h : (r p).result with
  | ok a =>
      rw [bind_of_ok h, Ran.journal_prepend, Journal.calls_append]
      exact List.prefix_append _ _
  | error e => exact bind_of_error h ▸ List.prefix_rfl
  | panic => exact bind_of_panic h ▸ List.prefix_rfl

theorem refl (r : Run ServiceError α) : Run.Curbed limit r r := fun _ => .same rfl

theorem bind {r r' : Run ServiceError α} {f f' : α → Run ServiceError β}
    (hr : Run.Curbed limit r r') (hf : ∀ a, Run.Curbed limit (f a) (f' a)) :
    Run.Curbed limit (r >>= f) (r' >>= f') := by
  intro p
  cases hr p with
  | refused hlimit hlong hresult hcalls =>
      rw [bind_of_error hresult]
      exact .refused hlimit hlong rfl (hcalls.trans (prefix_bind r' f' p))
  | same heq =>
      cases h : (r p).result with
      | error e =>
          rw [bind_of_error h, bind_of_error (heq ▸ h), heq]
          exact .same rfl
      | panic =>
          rw [bind_of_panic h, bind_of_panic (heq ▸ h), heq]
          exact .same rfl
      | ok a =>
          rw [bind_of_ok h, bind_of_ok (heq ▸ h), heq]
          cases hf a (r' p).after with
          | same heq' => exact .same (congrArg (Ran.prepend _) heq')
          | refused hlimit hlong hresult hcalls =>
              refine .refused hlimit hlong hresult ?_
              rw [Ran.journal_prepend, Ran.journal_prepend, Journal.calls_append,
                Journal.calls_append]
              exact List.prefix_append_right_inj _ |>.mpr hcalls

theorem within {r r' : Run ServiceError α} (s : Span) (hr : Run.Curbed limit r r') :
    Run.Curbed limit (Run.within s r) (Run.within s r') := by
  intro p
  cases hr p with
  | same heq =>
      refine .same ?_
      rw [within_apply, within_apply, heq]
  | refused hlimit hlong hresult hcalls =>
      refine .refused hlimit hlong hresult ?_
      rw [within_apply, within_apply, Journal.calls_within, Journal.calls_within]
      exact hcalls

/-- A decoding whose input was refused is not taken for one that the codec failed at. -/
theorem recovered {r r' : Run ServiceError Bytes} (input : Buffer) (hr : Run.Curbed limit r r') :
    Run.Curbed limit (Run.attempt r >>= Service.recovered input)
      (Run.attempt r' >>= Service.recovered input) := by
  intro p
  cases hr p with
  | same heq =>
      refine .same ?_
      rw [attempt_bind_apply, attempt_bind_apply, heq]
  | refused hlimit hlong hresult hcalls =>
      refine .refused hlimit hlong ?_ ?_
      · rw [attempt_bind_apply, hresult]
        rfl
      · have hcut : ((Run.attempt r >>= Service.recovered input) p).journal.calls =
            (r p).journal.calls := by
          rw [attempt_bind_apply, hresult]
          exact congrArg Journal.calls (List.append_nil _)
        rw [hcut]
        exact hcalls.trans (prefix_bind (Run.attempt r') (Service.recovered input) p)

theorem congruence (limit : Option UInt64) :
    Congruence (@fun _ r r' => Run.Curbed limit r r') where
  pure _ := refl _
  event _ _ := refl _
  bind := bind
  within := within
  recovered := recovered

/-- In the background a refusal is the same refusal. -/
theorem background {r r' : Run ServiceError α} (hr : Run.Curbed limit r r') :
    Run.Curbed limit (Service.background r) (Service.background r') := by
  intro p
  rw [Service.background, Service.background, attempt_bind_apply, attempt_bind_apply,
    onNewThread_apply, onNewThread_apply]
  cases hr { p with threads := p.threads + 1 } with
  | same heq =>
      rw [heq]
      exact .same rfl
  | refused hlimit hlong hresult hcalls =>
      rw [hresult]
      refine .refused hlimit hlong rfl ?_
      rw [Ran.journal_prepend, Ran.journal_prepend, Journal.calls_append, Journal.calls_append,
        Journal.calls_onThread, Journal.calls_onThread]
      exact (List.append_nil _).symm ▸ hcalls.trans (List.prefix_append _ _)

end Run.Curbed

/-! ## The operations under two limits -/

variable {m m' : Option UInt64}

/-- Of the limit, a call of a dispatcher looks at no more than the fault that it finds. -/
theorem Dispatch.perform_limited_eq {input : MediaBuffer}
    (hfault : input.fault? m = input.fault? m') (c : Dispatch) (h : Handle) (o : DispatchOptions) :
    c.perform ⟨h, o.limited m⟩ input = c.perform ⟨h, o.limited m'⟩ input := by
  have hbegin : ∀ i, Dispatcher.begin ⟨h, o.limited m⟩ i input =
      Dispatcher.begin ⟨h, o.limited m'⟩ i input := by
    intro i
    simp only [Dispatcher.begin, DispatchOptions.limited, hfault]
  have hinvoke : ∀ {α : Type} op (body : Invocation → Run CodecError α),
      Dispatcher.invoke ⟨h, o.limited m⟩ op input body =
        Dispatcher.invoke ⟨h, o.limited m'⟩ op input body := by
    intro α op body
    simp only [Dispatcher.invoke, hbegin]
  cases c with
  | chunks op => exact hinvoke op _
  | frame => exact hinvoke .videoFirstFrame _
  | size => exact hinvoke .videoGetSize _

theorem Dispatch.curbed_perform (hm : LimitAtMost m m') (c : Dispatch) (h : Handle)
    (o : DispatchOptions) (input : MediaBuffer) :
    Run.Curbed m (Run.mapError .codec (c.perform ⟨h, o.limited m⟩ input))
      (Run.mapError .codec (c.perform ⟨h, o.limited m'⟩ input)) := by
  intro p
  rcases hm.fault?_cases input with hsame | ⟨max, hmax, hlong, hfault⟩
  · rw [perform_limited_eq hsame c h o]
    exact .same rfl
  · have hcourse := course_of_fault (c := c) (d := ⟨h, o.limited m⟩) (p := p) hfault
    have hcalls : (c.perform ⟨h, o.limited m⟩ input p).journal.calls = [] := hcourse.calls
    refine .refused hmax hlong ?_ ?_
    · rw [Run.mapError_apply, hcourse.result]
      rfl
    · rw [Run.mapError_apply, hcalls]
      exact List.nil_prefix

/-- Every use of a handle under the smaller of two limits is what it is under the larger one, with
the same answer, the same calls and the same state after it, unless an input is refused that is
longer than the smaller limit.  Then the calls are the first of those under the larger limit.  So
what succeeds under a limit succeeds alike under every larger one. -/
theorem Use.perform_limited (hm : LimitAtMost m m') (h : Handle) (u : Use) (p : State) :
    let low := (u.mapOptions (·.limited m)).perform h p
    let high := (u.mapOptions (·.limited m')).perform h p
    (low = high ∨ ∃ length max, m = some max ∧ max.toNat < length ∧
        low.result = .error (.codec (.invalidInput (.overConfiguredLimit length max.toNat)))) ∧
      low.journal.calls <+: high.journal.calls ∧
      ∀ answer, low.result = .ok answer → high = low := by
  intro low high
  have hcurbed : low.Curbed m high := (Run.Curbed.congruence m).use Run.Curbed.background
    (fun c o input => c.curbed_perform hm h o input) (Run.Curbed.refl _) u p
  cases hcurbed with
  | same heq =>
      exact ⟨.inl heq, heq ▸ List.prefix_rfl, fun _ _ => heq.symm⟩
  | refused hlimit hlong hresult hcalls =>
      refine ⟨.inr ⟨_, _, hlimit, hlong, hresult⟩, hcalls, fun answer hanswer => ?_⟩
      rw [hresult] at hanswer
      cases hanswer

/-- A codec whose PCM is twice as long as what it decodes. -/
def Backend.growing : Backend where
  stream
    | .audioToPcm, _, bytes => { chunks := [bytes, bytes] }
    | _, _, bytes => { chunks := [bytes] }
  firstFrame _ _ := {}
  getSize _ _ := {}

/-- A voice message whose PCM is too long for the smaller limit, though its input was not. -/
theorem Use.perform_limited_growing :
    let p : State := .fresh ⟨"/", ⟨"linux", "x86_64"⟩, ⟨true, fun _ _ => ⟨[], .ok .growing⟩⟩⟩ .empty
    let voice := Use.request {} .encodeVoice (.ofBytes [1, 2, 3])
    let low := (voice.mapOptions (·.limited (some 4))).perform ⟨0, none, .growing⟩ p
    let high := (voice.mapOptions (·.limited (some 8))).perform ⟨0, none, .growing⟩ p
    LimitAtMost (some 4) (some 8) ∧
      low.result = .error (.codec (.invalidInput (.overConfiguredLimit 6 4))) ∧
      low.journal.calls = [.invoke .audioToPcm [1, 2, 3]] ∧
      low.journal.calls <+: high.journal.calls ∧
      ∀ answer, low.result = .ok answer → high = low := by
  intro p voice low high
  have hlimits : LimitAtMost (some 4) (some 8) := by
    intro max hmax
    obtain rfl := Option.some.inj hmax
    exact ⟨4, rfl, by decide⟩
  obtain ⟨-, hcalls, hsame⟩ := perform_limited hlimits ⟨0, none, .growing⟩ voice p
  exact ⟨hlimits, by decide +kernel, by decide +kernel, hcalls, hsame⟩

end MediaCodec
