/-
Invocations — the lifecycle of a single call.

A call is validated, then dispatched, then it may collect chunks, and it ends completed or
failed.  It may fail from every state but the first and the two last; a completed or failed
call never moves again.  A move that the lifecycle does not have is refused and leaves the
call where it is.
-/

import MediaCodec.Operation

namespace MediaCodec

/-- A state in the life of a call. -/
inductive InvocationState
  | idle
  | validating
  | dispatched
  | collectingChunks
  | completed
  | failed
  deriving DecidableEq, Repr

namespace InvocationState

/-- Whether a call in this state is over. -/
def isTerminal : InvocationState → Bool
  | completed | failed => true
  | _ => false

/-- Whether a call may move from one state to the next. -/
def canMoveTo : InvocationState → InvocationState → Bool
  | idle, validating => true
  | validating, dispatched => true
  | validating, failed => true
  | dispatched, collectingChunks => true
  | dispatched, completed => true
  | dispatched, failed => true
  | collectingChunks, collectingChunks => true
  | collectingChunks, completed => true
  | collectingChunks, failed => true
  | _, _ => false

/-- The name in diagnostics. -/
def label : InvocationState → String
  | idle => "Idle"
  | validating => "Validating"
  | dispatched => "Dispatched"
  | collectingChunks => "CollectingChunks"
  | completed => "Completed"
  | failed => "Failed"

def all : List InvocationState :=
  [idle, validating, dispatched, collectingChunks, completed, failed]

end InvocationState

/-- A refused move. -/
structure InvalidTransition where
  operation : Operation
  current : InvocationState
  requested : InvocationState
  deriving DecidableEq, Repr

/-- The wording of a refused move. -/
def InvalidTransition.message (t : InvalidTransition) : String :=
  t.operation.symbol ++ " cannot move from " ++ t.current.label ++ " to " ++ t.requested.label

/-- A call and the state it is in. -/
structure Invocation where
  operation : Operation
  state : InvocationState
  deriving DecidableEq, Repr

namespace Invocation

/-- A call before it has begun. -/
def start (op : Operation) : Invocation := ⟨op, .idle⟩

/-- Moves a call to its next state. -/
def advance (i : Invocation) (next : InvocationState) : Except InvalidTransition Invocation :=
  if i.state.canMoveTo next then .ok { i with state := next }
  else .error ⟨i.operation, i.state, next⟩

end Invocation

end MediaCodec
