/-
Grammar — the words that the moves of a call spell.

The lifecycle of a call is a table of moves, and it can be written as one expression: a call is
validated; then it fails, or it is dispatched, collects chunks for as long as they come, and
completes or fails.  Both say the same (`InvocationState.mem_ahead_iff`).  For each state there is
an expression for what may still come, and a move takes a letter off the front of it: the
expression of the state that is left, once a letter is read, is that of the state that is entered.

Whoever drives a call may ask for any move at any time.  Of what is asked the call accepts the
beginning of a word and refuses the rest, and a refusal leaves no trace in it
(`Invocation.obeys_requests`).
-/

import MediaCodec.Proofs.Lifecycle
import Mathlib.Computability.RegularExpressions

namespace MediaCodec

/-! ## The lifecycle as an expression -/

namespace InvocationState

open RegularExpression

/-- What a dispatched call goes through. -/
def collection : RegularExpression InvocationState :=
  star (char collectingChunks) * (char completed + char failed)

/-- What a call goes through that is being validated. -/
def validation : RegularExpression InvocationState := char failed + char dispatched * collection

/-- What a call goes through. -/
def lifecycle : RegularExpression InvocationState := char validating * validation

/-- What is still to come in a state. -/
def ahead : InvocationState → RegularExpression InvocationState
  | idle => lifecycle
  | validating => validation
  | dispatched | collectingChunks => collection
  | completed | failed => 1

section

variable {s t u : InvocationState} {w v : List InvocationState}

theorem nil_mem_ahead_iff : [] ∈ (ahead s).matches' ↔ s.isTerminal = true := by
  rw [← rmatch_iff_matches']
  cases s <;> decide

/-- The words behind a letter are those of the derivative. -/
theorem mem_deriv_iff (P : RegularExpression InvocationState) :
    w ∈ (P.deriv t).matches' ↔ t :: w ∈ P.matches' := by
  rw [← rmatch_iff_matches', ← rmatch_iff_matches', rmatch]

/-- A letter that can come first is an allowed move, and what follows it is what is ahead after it. -/
theorem cons_mem_ahead_iff :
    t :: w ∈ (ahead s).matches' ↔ s.canMoveTo t = true ∧ w ∈ (ahead t).matches' := by
  rw [← mem_deriv_iff]
  cases s <;> cases t <;>
    simp [ahead, lifecycle, validation, collection, RegularExpression.deriv,
      RegularExpression.matchEpsilon, canMoveTo]

/-- A word is ahead of a state if its letters lead from there to an end. -/
theorem mem_ahead_iff :
    w ∈ (ahead s).matches' ↔ ∃ u, u.isTerminal = true ∧ Leads s w u := by
  induction w generalizing s with
  | nil =>
      rw [nil_mem_ahead_iff]
      constructor
      · intro h
        exact ⟨s, h, .stay s⟩
      · rintro ⟨_, h, ⟨⟩⟩
        exact h
  | cons t w ih =>
      rw [cons_mem_ahead_iff, ih]
      constructor
      · rintro ⟨hmove, u, hend, hrest⟩
        exact ⟨u, hend, .move hmove hrest⟩
      · rintro ⟨u, hend, hleads⟩
        cases hleads with
        | move hmove hrest => exact ⟨hmove, u, hend, hrest⟩

theorem Leads.append (h : Leads s w t) (h' : Leads t v u) : Leads s (w ++ v) u := by
  induction h with
  | stay s => exact h'
  | move hmove _ ih => exact .move hmove (ih h')

theorem Leads.of_append (h : Leads s (w ++ v) u) : ∃ t, Leads s w t := by
  induction w generalizing s with
  | nil => exact ⟨s, .stay s⟩
  | cons t w ih =>
      cases h with
      | move hmove hrest =>
          obtain ⟨r, hr⟩ := ih hrest
          exact ⟨r, .move hmove hr⟩

/-- From every state a call can come to an end. -/
theorem exists_leads_isTerminal (s : InvocationState) :
    ∃ w u, u.isTerminal = true ∧ Leads s w u := by
  cases s with
  | idle => exact ⟨[validating, failed], failed, rfl, .move rfl (.move rfl (.stay _))⟩
  | validating | dispatched | collectingChunks => exact ⟨[failed], failed, rfl, .move rfl (.stay _)⟩
  | completed | failed => exact ⟨[], _, rfl, .stay _⟩

/-- The beginnings of words are what leads anywhere. -/
theorem exists_append_mem_ahead_iff :
    (∃ v, w ++ v ∈ (ahead s).matches') ↔ ∃ t, Leads s w t := by
  constructor
  · rintro ⟨v, h⟩
    obtain ⟨u, -, hleads⟩ := mem_ahead_iff.mp h
    exact hleads.of_append
  · rintro ⟨t, hleads⟩
    obtain ⟨v, u, hend, hrest⟩ := exists_leads_isTerminal t
    exact ⟨v, mem_ahead_iff.mpr ⟨u, hend, hleads.append hrest⟩⟩

theorem canMoveTo_of_isTerminal (h : s.isTerminal = true) (t : InvocationState) :
    s.canMoveTo t = false := by
  cases s with
  | completed | failed => rfl
  | idle | validating | dispatched | collectingChunks => exact absurd h Bool.false_ne_true

end

end InvocationState

/-! ## Requests -/

namespace Invocation

/-- A call after a request; one that is refused leaves it where it was. -/
def request (i : Invocation) (s : InvocationState) : Invocation := (i.advance s).toOption.getD i

/-- A call after requests, one after another. -/
def requests (i : Invocation) (ss : List InvocationState) : Invocation := ss.foldl request i

/-- Those of the requests that are accepted. -/
def accepted (i : Invocation) : List InvocationState → List InvocationState
  | [] => []
  | s :: rest =>
    match i.advance s with
    | .ok j => s :: j.accepted rest
    | .error _ => i.accepted rest

section

variable {i : Invocation} {s u : InvocationState} {ss w : List InvocationState}

theorem advance_of_canMoveTo (h : i.state.canMoveTo s = true) :
    i.advance s = .ok { i with state := s } := if_pos h

theorem advance_of_not_canMoveTo (h : i.state.canMoveTo s = false) :
    i.advance s = .error ⟨i.operation, i.state, s⟩ := if_neg (by rw [h]; exact Bool.false_ne_true)

theorem requests_cons : i.requests (s :: ss) = (i.request s).requests ss := rfl

theorem request_of_canMoveTo (h : i.state.canMoveTo s = true) :
    i.request s = { i with state := s } := by
  rw [request, advance_of_canMoveTo h]
  rfl

theorem request_of_not_canMoveTo (h : i.state.canMoveTo s = false) : i.request s = i := by
  rw [request, advance_of_not_canMoveTo h]
  rfl

theorem accepted_cons_of_canMoveTo (h : i.state.canMoveTo s = true) :
    i.accepted (s :: ss) = s :: (i.request s).accepted ss := by
  rw [accepted, request_of_canMoveTo h, advance_of_canMoveTo h]

theorem accepted_cons_of_not_canMoveTo (h : i.state.canMoveTo s = false) :
    i.accepted (s :: ss) = i.accepted ss := by
  rw [accepted, advance_of_not_canMoveTo h]

/-- A request is an allowed move or no move at all. -/
theorem operation_request (i : Invocation) (s : InvocationState) :
    (i.request s).operation = i.operation := by
  cases h : i.state.canMoveTo s with
  | true => rw [request_of_canMoveTo h]
  | false => rw [request_of_not_canMoveTo h]

theorem operation_requests (i : Invocation) (ss : List InvocationState) :
    (i.requests ss).operation = i.operation := by
  induction ss generalizing i with
  | nil => rfl
  | cons s rest ih => rw [requests_cons, ih, operation_request]

/-- What is accepted leads to where the call ends up. -/
theorem leads_accepted (i : Invocation) (ss : List InvocationState) :
    InvocationState.Leads i.state (i.accepted ss) (i.requests ss).state := by
  induction ss generalizing i with
  | nil => exact .stay _
  | cons s rest ih =>
      cases h : i.state.canMoveTo s with
      | true =>
          rw [accepted_cons_of_canMoveTo h]
          have hrest := ih (i.request s)
          rw [request_of_canMoveTo h] at hrest ⊢
          rw [requests_cons, request_of_canMoveTo h]
          exact .move h hrest
      | false =>
          rw [accepted_cons_of_not_canMoveTo h, requests_cons, request_of_not_canMoveTo h]
          exact ih i

/-- What leads anywhere is accepted in full. -/
theorem accepted_of_leads (h : InvocationState.Leads i.state w u) : i.accepted w = w := by
  induction w generalizing i with
  | nil => rfl
  | cons s rest ih =>
      cases h with
      | move hmove hrest =>
          rw [accepted_cons_of_canMoveTo hmove, request_of_canMoveTo hmove]
          exact congrArg (s :: ·) (ih hrest)

theorem accepted_eq_self_iff : i.accepted w = w ↔ ∃ u, InvocationState.Leads i.state w u := by
  constructor
  · intro h
    have hleads := i.leads_accepted w
    rw [h] at hleads
    exact ⟨_, hleads⟩
  · rintro ⟨u, h⟩
    exact accepted_of_leads h

theorem accepted_append (i : Invocation) (ss more : List InvocationState) :
    i.accepted (ss ++ more) = i.accepted ss ++ (i.requests ss).accepted more := by
  induction ss generalizing i with
  | nil => rfl
  | cons s rest ih =>
      rw [List.cons_append, requests_cons]
      cases h : i.state.canMoveTo s with
      | true =>
          rw [accepted_cons_of_canMoveTo h, accepted_cons_of_canMoveTo h, ih, List.cons_append]
      | false =>
          rw [accepted_cons_of_not_canMoveTo h, accepted_cons_of_not_canMoveTo h, ih,
            request_of_not_canMoveTo h]

/-- The refused requests need not have been made. -/
theorem requests_accepted (i : Invocation) (ss : List InvocationState) :
    i.requests (i.accepted ss) = i.requests ss := by
  induction ss generalizing i with
  | nil => rfl
  | cons s rest ih =>
      cases h : i.state.canMoveTo s with
      | true => rw [accepted_cons_of_canMoveTo h, requests_cons, requests_cons, ih]
      | false =>
          rw [accepted_cons_of_not_canMoveTo h, requests_cons, request_of_not_canMoveTo h, ih]

theorem accepted_of_isTerminal (h : i.state.isTerminal = true) (ss : List InvocationState) :
    i.accepted ss = [] := by
  induction ss with
  | nil => rfl
  | cons s rest ih =>
      rw [accepted_cons_of_not_canMoveTo (InvocationState.canMoveTo_of_isTerminal h s), ih]

end

/-- What a call makes of the requests that it gets from its beginning on. -/
structure Obeys (op : Operation) (asked : List InvocationState) : Prop where
  /-- It accepts the beginning of a word. -/
  accepts : ∃ rest, (start op).accepted asked ++ rest ∈ InvocationState.lifecycle.matches'
  /-- It accepts everything just if that is the beginning of a word. -/
  whole : (start op).accepted asked = asked ↔
    ∃ rest, asked ++ rest ∈ InvocationState.lifecycle.matches'
  /-- A next request that is refused is told with the call and its state, and changes nothing. -/
  refuses : ∀ s t, ((start op).requests asked).advance s = .error t →
    t = ⟨op, ((start op).requests asked).state, s⟩ ∧
      (start op).requests (asked ++ [s]) = (start op).requests asked
  /-- Without the requests that were refused the call ends up the same. -/
  replays : (start op).requests ((start op).accepted asked) = (start op).requests asked
  /-- A call that is over accepts nothing more. -/
  ended : ((start op).requests asked).state.isTerminal = true →
    ∀ more, (start op).accepted (asked ++ more) = (start op).accepted asked

/-- A call keeps to its lifecycle, whatever is asked of it. -/
theorem obeys_requests (op : Operation) (asked : List InvocationState) : Obeys op asked where
  accepts := InvocationState.exists_append_mem_ahead_iff.mpr ⟨_, (start op).leads_accepted asked⟩
  whole := accepted_eq_self_iff.trans InvocationState.exists_append_mem_ahead_iff.symm
  refuses := by
    intro s t ht
    have hop : ((start op).requests asked).operation = op := operation_requests _ _
    have hnext : (start op).requests (asked ++ [s]) = ((start op).requests asked).request s :=
      List.foldl_concat ..
    cases h : ((start op).requests asked).state.canMoveTo s with
    | true =>
        rw [advance_of_canMoveTo h] at ht
        cases ht
    | false =>
        rw [advance_of_not_canMoveTo h, hop] at ht
        exact ⟨(Except.error.inj ht).symm, by rw [hnext, request_of_not_canMoveTo h]⟩
  replays := requests_accepted _ _
  ended := by
    intro hended more
    rw [accepted_append, accepted_of_isTerminal hended, List.append_nil]

end Invocation

end MediaCodec
