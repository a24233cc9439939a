/-
Runs — computations inside a process.

A run starts from a state and ends with a journal of what happened, an answer (or an error,
or a panic), and the state as it is afterwards.  Runs follow one another: the journals are
joined, the state is passed on, and an error or a panic ends the sequence.  Nothing that
happened is taken back by a later failure.
-/

import MediaCodec.State

namespace MediaCodec

/-- The end of a run. -/
structure Ran (ε α : Type) where
  journal : Journal
  result : Attempt ε α
  after : State

/-- A computation inside a process. -/
def Run (ε α : Type) := State → Ran ε α

namespace Run

def pure (a : α) : Run ε α := fun p => ⟨[], .ok a, p⟩

/-- Runs one computation, and then the one that its answer chooses. -/
def bind (r : Run ε α) (f : α → Run ε β) : Run ε β := fun p =>
  let first := r p
  match first.result with
  | .ok a =>
    let second := f a first.after
    ⟨first.journal ++ second.journal, second.result, second.after⟩
  | .error e => ⟨first.journal, .error e, first.after⟩
  | .panic => ⟨first.journal, .panic, first.after⟩

instance : Monad (Run ε) where
  pure := Run.pure
  bind := Run.bind

def fail (e : ε) : Run ε α := fun p => ⟨[], .error e, p⟩

def panic : Run ε α := fun p => ⟨[], .panic, p⟩

/-- The state as it is now. -/
def get : Run ε State := fun p => ⟨[], .ok p, p⟩

def modify (f : State → State) : Run ε Unit := fun p => ⟨[], .ok (), f p⟩

def event (e : Event) : Run ε Unit := fun p => ⟨[.event e], .ok (), p⟩

def events (es : List Event) : Run ε Unit := fun p => ⟨es.map .event, .ok (), p⟩

/-- Notes that an invocation entered a state. -/
def enter (s : InvocationState) : Run ε Unit := fun p => ⟨[.state s], .ok (), p⟩

/-- Makes a call, which later calls may be answered by. -/
def call (c : Call) : Run ε Unit := fun p =>
  ⟨[.call c], .ok (), { p with past := p.past ++ [c] }⟩

def ofAttempt (r : Attempt ε α) : Run ε α := fun p => ⟨[], r, p⟩

/-- A finished answer that is no panic. -/
def ofExcept (r : Except ε α) : Run ε α := ofAttempt (.ofExcept r)

def mapError (f : ε → δ) (r : Run ε α) : Run δ α := fun p =>
  let ran := r p
  ⟨ran.journal, ran.result.mapError f, ran.after⟩

/-- Runs to the end and answers with what became of it. -/
def attempt (r : Run ε α) : Run δ (Attempt ε α) := fun p =>
  let ran := r p
  ⟨ran.journal, .ok ran.result, ran.after⟩

def within (s : Span) (r : Run ε α) : Run ε α := fun p =>
  let ran := r p
  { ran with journal := ran.journal.within s }

/-- Runs on a thread of its own. -/
def onNewThread (r : Run ε α) : Run ε α := fun p =>
  let thread := p.threads + 1
  let ran := r { p with threads := thread }
  { ran with journal := ran.journal.onThread thread }

end Run

end MediaCodec
