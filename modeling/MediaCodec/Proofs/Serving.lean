/-
Serving — what the entry points for C callers do with the process, and with the caller's memory.

An entry point first needs a service.  It takes the one in its slot, or else the shared one,
which it puts there; what that comes to is a function of the state, as opening is.  Then it does
what the service does, under a guard that turns every end into a status.

The five codec calls are one thing with three kinds of output.  `CodecCall.perform_comesTo` says
so: unless a pointer is missing, a call comes to the status and the memory that the method of the
service determines, and has its calls and its state.
-/

import MediaCodec.Boundary
import MediaCodec.Proofs.Frame
import MediaCodec.Proofs.Opening

namespace MediaCodec

/-! ## The guard -/

/-- The status of what became of a call. -/
def Status.ofAttempt : Attempt ServiceError α → Status
  | .ok _ => Status.ok
  | .error e => e.status
  | .panic => Status.internal

namespace Boundary

/-- What is logged about a call that did not succeed. -/
def complaints (operation : String) : Attempt ServiceError α → List Event
  | .ok _ => []
  | .error e =>
    [.say boundaryTarget .warn ("C API call failed: " ++ e.message)
      [("operation", .text operation)]]
  | .panic => [.say boundaryTarget .error "C API call panicked" [("operation", .text operation)]]

variable {operation : String} {c : Run ServiceError α} {p : State}

/-- The guard always answers, with the status of the call and with its output if it has one. -/
theorem guarded_apply (operation : String) (c : Run ServiceError α) (p : State) :
    (guarded operation c : Run ε _) p =
      ⟨(c p).journal ++ (complaints operation (c p).result).map .event,
        .ok (Status.ofAttempt (c p).result, (c p).result.ok?), (c p).after⟩ := by
  rw [guarded, Run.attempt_bind_apply]
  cases (c p).result with
  | ok a => simp [complaints, Status.ofAttempt, Attempt.ok?]
  | error e => simp [complaints, Status.ofAttempt, Attempt.ok?]
  | panic => simp [complaints, Status.ofAttempt, Attempt.ok?]

/-- What follows the guard and neither calls nor changes anything only adds its answer. -/
theorem guarded_bind_comesTo {f : Status × Option α → Run ε β} {result : Attempt ε β}
    (h : (f (Status.ofAttempt (c p).result, (c p).result.ok?) (c p).after).ComesTo result []
      (c p).after) :
    ((guarded operation c >>= f) p).ComesTo result (c p).journal.calls (c p).after := by
  have hguarded : ((guarded operation c : Run ε _) p).ComesTo
      (.ok (Status.ofAttempt (c p).result, (c p).result.ok?)) (c p).journal.calls (c p).after := by
    rw [guarded_apply]
    exact ⟨rfl, by simp, rfl⟩
  exact hguarded.bind_silent h

end Boundary

/-! ## The service in the slot -/

namespace State

variable {p : State} {config : Except SetupError Config}

/-- The state of a process whose empty slot is filled with what it shares, if it shares a
service. -/
def filling (p : State) (config : Except SetupError Config) : State :=
  { p.sharing config with slot := (Service.ofShared (p.shared config)).toOption }

/-- The service that an entry point finds. -/
def served (p : State) : Except ServiceError Service :=
  match p.slot with
  | some s => .ok s
  | none => Service.ofShared (p.shared (Service.environmentConfig p))

/-- The state of a process in which an entry point has looked for a service. -/
def serving (p : State) : State :=
  match p.slot with
  | some _ => p
  | none => p.filling (Service.environmentConfig p)

/-- The calls that an entry point makes to find a service. -/
def servingLoads (p : State) : List Call :=
  match p.slot with
  | some _ => []
  | none => p.sharingLoads (Service.environmentConfig p)

theorem served_of_some {s : Service} (h : p.slot = some s) : p.served = .ok s := by
  rw [served, h]

theorem serving_of_some {s : Service} (h : p.slot = some s) : p.serving = p := by
  rw [serving, h]

theorem servingLoads_of_some {s : Service} (h : p.slot = some s) : p.servingLoads = [] := by
  rw [servingLoads, h]

theorem served_of_none (h : p.slot = none) :
    p.served = Service.ofShared (p.shared (Service.environmentConfig p)) := by
  rw [served, h]

theorem serving_of_none (h : p.slot = none) :
    p.serving = p.filling (Service.environmentConfig p) := by
  rw [serving, h]

theorem servingLoads_of_none (h : p.slot = none) :
    p.servingLoads = p.sharingLoads (Service.environmentConfig p) := by
  rw [servingLoads, h]

end State

namespace Boundary

variable {p : State}

theorem install_of_none (s : Service) (h : p.slot = none) :
    (install s : Run ε Bool) p = ⟨[], .ok true, { p with slot := some s }⟩ := by
  simp [install, h]

theorem install_of_some (s : Service) {old : Service} (h : p.slot = some old) :
    (install s : Run ε Bool) p = ⟨[], .ok false, p⟩ := by
  simp [install, h]

/-- What asks for the shared service and then puts it into the empty slot fills the slot. -/
theorem filling_comesTo {config : Except SetupError Config} {r : Run ServiceError Service}
    {f : Service → Run ServiceError α} {g : Service → α}
    (h : (r p).ComesTo (.ofExcept (Service.ofShared (p.shared config))) (p.sharingLoads config)
      (p.sharing config)) (hslot : p.slot = none)
    (hf : ∀ s q, q.slot = none → (f s q).ComesTo (.ok (g s)) [] { q with slot := some s }) :
    ((r >>= f) p).ComesTo (.ofExcept ((Service.ofShared (p.shared config)).map g))
      (p.sharingLoads config) (p.filling config) := by
  have hslot' : (p.sharing config).slot = none := by rw [State.slot_sharing, hslot]
  unfold State.filling
  cases hshared : Service.ofShared (p.shared config) with
  | error e =>
      rw [hshared] at h
      have hafter : { p.sharing config with slot := none } = p.sharing config := by rw [← hslot']
      simp only [Except.toOption, Except.map, hafter]
      exact h.bind_error f
  | ok s =>
      rw [hshared] at h
      exact h.bind_silent (hf s _ hslot')

/-- An entry point finds the service of the slot, or else what the process shares. -/
theorem service_comesTo (p : State) :
    (service p).ComesTo (.ofExcept p.served) p.servingLoads p.serving := by
  cases hslot : p.slot with
  | some s =>
      rw [State.served_of_some hslot, State.serving_of_some hslot, State.servingLoads_of_some hslot,
        service, Run.get_bind_apply, hslot]
      exact ⟨rfl, rfl, rfl⟩
  | none =>
      have hfill := filling_comesTo (Service.global_comesTo p) hslot (g := id)
        (f := fun s => do Run.modify fun p => { p with slot := some s }; return s)
        fun s q _ => ⟨rfl, rfl, rfl⟩
      rw [State.served_of_none hslot, State.serving_of_none hslot, State.servingLoads_of_none hslot,
        service, Run.get_bind_apply, hslot]
      cases hshared : Service.ofShared (p.shared (Service.environmentConfig p)) with
      | error e =>
          rw [hshared] at hfill
          exact hfill
      | ok s =>
          rw [hshared] at hfill
          exact hfill

/-- The configuration that opening ahead uses, under a library directory if one is given. -/
def configUnder (p : State) (dir : Option Path) : Except SetupError Config := do
  let s ← settings p dir
  Builder.build { settings := s } p.machine.host p.machine.loader

theorem configUnder_of_error {dir : Option Path} {e : SetupError} (h : settings p dir = .error e) :
    configUnder p dir = .error e := by
  rw [configUnder, h]
  rfl

theorem configUnder_of_ok {dir : Option Path} {s : Settings} (h : settings p dir = .ok s) :
    configUnder p dir = Builder.build { settings := s } p.machine.host p.machine.loader := by
  rw [configUnder, h]
  rfl

theorem openShared_of_some {s : Service} (h : p.slot = some s) (dir : Option Path) :
    openShared dir p = ⟨[], .ok (), p⟩ := by
  simp [openShared, h]

/-- A configuration that cannot be built opens nothing, and is not remembered. -/
theorem openShared_of_error {e : SetupError} {dir : Option Path} (hslot : p.slot = none)
    (h : configUnder p dir = .error e) : openShared dir p = ⟨[], .error (.setup e), p⟩ := by
  rw [openShared, Run.get_bind_apply, hslot]
  cases hs : settings p dir with
  | error f =>
      rw [configUnder_of_error hs] at h
      obtain rfl := Except.error.inj h
      rfl
  | ok s =>
      rw [configUnder_of_ok hs] at h
      show (Run.ofExcept (.ok s) >>= _) p = _
      rw [Run.ofExcept_ok_bind_apply, h]
      rfl

theorem openShared_of_ok {c : Config} {dir : Option Path} (hslot : p.slot = none)
    (h : configUnder p dir = .ok c) :
    (openShared dir p).ComesTo (.ofExcept ((Service.ofShared (p.shared (.ok c))).map fun _ => ()))
      (p.sharingLoads (.ok c)) (p.filling (.ok c)) := by
  rw [openShared, Run.get_bind_apply, hslot]
  cases hs : settings p dir with
  | error f =>
      rw [configUnder_of_error hs] at h
      cases h
  | ok s =>
      rw [configUnder_of_ok hs] at h
      show ((Run.ofExcept (.ok s) >>= _) p).ComesTo _ _ _
      rw [Run.ofExcept_ok_bind_apply, h]
      show ((Run.ofExcept (.ok c) >>= _) p).ComesTo _ _ _
      rw [Run.ofExcept_ok_bind_apply]
      refine filling_comesTo (Service.initGlobal_comesTo c p) hslot fun s q hq => ?_
      rw [Run.bind_of_eq_ok (install_of_none s hq)]
      exact ⟨rfl, rfl, rfl⟩

/-- The library directory that a C string names, if it names none or is a text. -/
def directory (dir : Option Bytes) : Option (Option Path) :=
  match dir with
  | none => some none
  | some b => (Text.ofUtf8? b).map some

theorem start_of_refused {dir : Option Bytes} (h : directory dir = none) :
    (start dir : Run ε Status) p = ⟨[], .ok Status.invalidInput, p⟩ := by
  cases dir with
  | none => exact absurd h.symm (Option.some_ne_none _).symm
  | some b =>
      have hb : Text.ofUtf8? b = none := by simpa [directory] using h
      simp only [start, hb, Run.pure_apply]

/-- Opening ahead answers with the status of opening the shared service. -/
theorem start_comesTo {dir : Option Bytes} {d : Option Path} (h : directory dir = some d) :
    ((start dir : Run ε Status) p).ComesTo (.ok (Status.ofAttempt (openShared d p).result))
      (openShared d p).journal.calls (openShared d p).after := by
  cases dir with
  | none =>
      obtain rfl := Option.some.inj h
      exact guarded_bind_comesTo ⟨rfl, rfl, rfl⟩
  | some b =>
      cases hb : Text.ofUtf8? b with
      | none => simp [directory, hb] at h
      | some path =>
          obtain rfl : some path = d := by simpa [directory, hb] using h
          simp only [start, hb]
          exact guarded_bind_comesTo ⟨rfl, rfl, rfl⟩

end Boundary

/-! ## The codec calls -/

/-- A codec call of a C caller, with the pointers that it passes. -/
inductive CodecCall
  | stream (op : Streaming) (input : ForeignInput) (hasCallback : Bool)
  | firstFrame (input : ForeignInput) (slots : FrameSlots)
  | getSize (input : ForeignInput) (record : Option VideoMetadata)

/-- What a C caller sees of a codec call besides the status: the calls of its callback, or what
its variables hold. -/
inductive CallerMemory
  | deliveries (ds : List Delivery)
  | frame (slots : FrameSlots)
  | record (m : Option VideoMetadata)
  deriving DecidableEq, Repr

namespace CodecCall

/-- What the method of the service behind a call answers with. -/
abbrev Output : CodecCall → Type
  | stream .. => ChunkStream
  | firstFrame .. => Bytes
  | getSize .. => VideoMetadata

def perform : CodecCall → Run ε (Status × CallerMemory)
  | stream op input hasCallback => do
    let (status, ds) ← Boundary.stream op input hasCallback
    return (status, .deliveries ds)
  | firstFrame input slots => do
    let (status, slots) ← Boundary.firstFrame input slots
    return (status, .frame slots)
  | getSize input record => do
    let (status, m) ← Boundary.getSize input record
    return (status, .record m)

/-- Whether the callback or a pointer for output is null. -/
def lacksPointer : CodecCall → Bool
  | stream _ _ hasCallback => !hasCallback
  | firstFrame _ ⟨some _, some _⟩ => false
  | firstFrame _ _ => true
  | getSize _ record => record.isNone

/-- The method of the service behind a call; the length of a frame has to fit a C `int`. -/
def method (s : Service) : (c : CodecCall) → Run ServiceError c.Output
  | stream op input _ => s.dispatch op input.slice
  | firstFrame input _ => do
    let b ← s.videoFirstFrame input.slice
    if b.length ≤ Status.maxLength then return b
    else Run.fail (.codec (.malformedResult (.frameTooLarge b.length)))
  | getSize input _ => s.videoGetSize input.slice

/-- The method behind a call, on the service that the call finds. -/
def served (c : CodecCall) : Run ServiceError c.Output := do
  let s ← Boundary.service
  c.method s

/-- The caller's memory after a call that has an output. -/
def delivered : (c : CodecCall) → c.Output → CallerMemory
  | stream .., chunks => .deliveries (chunks.chunks.map .ofChunk)
  | firstFrame .., b => .frame ⟨some (.frame b), some (clampLength b.length)⟩
  | getSize .., m => .record (some m)

/-- The caller's memory after a call without an output.  The callback has not been called, the
variables for a frame are cleared if both are there, and the record is as it was. -/
def spared : CodecCall → CallerMemory
  | stream .. => .deliveries []
  | firstFrame _ ⟨some _, some _⟩ => .frame ⟨some .null, some 0⟩
  | firstFrame _ slots => .frame slots
  | getSize _ record => .record record

/-- The caller's memory after a call whose method ended so. -/
def memory (c : CodecCall) (r : Attempt ServiceError c.Output) : CallerMemory :=
  match r.ok? with
  | some o => c.delivered o
  | none => c.spared

variable {c : CodecCall} {p : State}

/-- Without its pointers a call does nothing. -/
theorem perform_of_lacksPointer (h : c.lacksPointer = true) (p : State) :
    (c.perform : Run ε _) p = ⟨[], .ok (Status.invalidInput, c.spared), p⟩ := by
  cases c with
  | stream op input hasCallback =>
      obtain rfl : hasCallback = false := by simpa [lacksPointer] using h
      rfl
  | firstFrame input slots =>
      obtain ⟨frame, size⟩ := slots
      cases frame with
      | none => rfl
      | some f =>
          cases size with
          | none => rfl
          | some n => exact absurd h Bool.false_ne_true
  | getSize input record =>
      cases record with
      | none => rfl
      | some m => exact absurd h Bool.false_ne_true

/-- What follows the guard of a call hands over the output, or spares the caller's memory. -/
theorem guarded_served_comesTo {operation : String}
    {f : Status × Option c.Output → Run ε (Status × CallerMemory)}
    (hnone : ∀ status q, f (status, none) q = ⟨[], .ok (status, c.spared), q⟩)
    (hsome : ∀ status o q, f (status, some o) q = ⟨[], .ok (status, c.delivered o), q⟩)
    (p : State) :
    ((Boundary.guarded operation c.served >>= f) p).ComesTo
      (.ok (Status.ofAttempt (c.served p).result, c.memory (c.served p).result))
      (c.served p).journal.calls (c.served p).after := by
  refine Boundary.guarded_bind_comesTo ?_
  unfold memory
  cases (c.served p).result.ok? with
  | none =>
      rw [hnone]
      exact ⟨rfl, rfl, rfl⟩
  | some o =>
      rw [hsome]
      exact ⟨rfl, rfl, rfl⟩

/-- With its pointers a call comes to what the method behind it comes to. -/
theorem perform_comesTo (h : c.lacksPointer = false) (p : State) :
    ((c.perform : Run ε _) p).ComesTo
      (.ok (Status.ofAttempt (c.served p).result, c.memory (c.served p).result))
      (c.served p).journal.calls (c.served p).after := by
  cases c with
  | stream op input hasCallback =>
      obtain rfl : hasCallback = true := by simpa [lacksPointer] using h
      show (((Boundary.guarded _ (stream op input true).served >>= _) >>= _) p).ComesTo _ _ _
      rw [Run.bind_assoc]
      exact guarded_served_comesTo (fun _ _ => rfl) (fun _ _ _ => rfl) p
  | firstFrame input slots =>
      obtain ⟨frame, size⟩ := slots
      cases frame with
      | none => exact absurd h.symm Bool.false_ne_true
      | some f =>
          cases size with
          | none => exact absurd h.symm Bool.false_ne_true
          | some n =>
              show (((Boundary.guarded _ (firstFrame input ⟨some f, some n⟩).served >>= _) >>= _)
                p).ComesTo _ _ _
              rw [Run.bind_assoc]
              exact guarded_served_comesTo (fun _ _ => rfl) (fun _ _ _ => rfl) p
  | getSize input record =>
      cases record with
      | none => exact absurd h.symm Bool.false_ne_true
      | some old =>
          show (((Boundary.guarded _ (getSize input (some old)).served >>= _) >>= _)
            p).ComesTo _ _ _
          rw [Run.bind_assoc]
          exact guarded_served_comesTo (fun _ _ => rfl) (fun _ _ _ => rfl) p

end CodecCall

/-! ## What a codec call leaves alone -/

namespace State

/-- No handle is closed, and a service in the slot stays there. -/
structure Spares (p : State) (_ : List Call) (q : State) : Prop where
  closed : q.closed = p.closed
  slot : ∀ s, p.slot = some s → q.slot = some s

theorem Spares.trail : Trail Spares where
  refl _ := ⟨rfl, fun _ h => h⟩
  trans hpq hqr := ⟨hqr.closed.trans hpq.closed, fun s hs => hqr.slot s (hpq.slot s hs)⟩

theorem Used.spares {h : Handle} {p q : State} {cs : List Call} (u : Used h p cs q) :
    Spares p cs q :=
  ⟨u.closed_eq, fun s hs => by rw [u.slot_eq, hs]⟩

theorem spares_serving (p : State) : Spares p p.servingLoads p.serving := by
  cases hslot : p.slot with
  | some s =>
      rw [servingLoads_of_some hslot, serving_of_some hslot]
      exact Spares.trail.refl p
  | none =>
      rw [serving_of_none hslot]
      refine ⟨closed_sharing, fun s hs => ?_⟩
      rw [hslot] at hs
      cases hs

end State

theorem Boundary.keeps_service : Boundary.service.Keeps State.Spares := by
  intro p
  have h := Boundary.service_comesTo p
  rw [h.calls, h.after]
  exact p.spares_serving

namespace CodecCall

variable {c : CodecCall}

theorem keeps_method (s : Service) (c : CodecCall) : (c.method s).Keeps (State.Used s.handle) := by
  have ht := State.Used.trail s.handle
  cases c with
  | stream op input hasCallback => exact Service.keeps_dispatch op
  | getSize input record => exact Service.keeps_videoGetSize
  | firstFrame input slots =>
      refine ht.bind Service.keeps_videoFirstFrame fun b => ?_
      split
      · exact ht.pure b
      · exact ht.fail _

theorem keeps_served (c : CodecCall) : c.served.Keeps State.Spares :=
  State.Spares.trail.bind Boundary.keeps_service fun s p => (keeps_method s c p).spares

theorem served_of_error {p : State} {e : ServiceError} (h : p.served = .error e) :
    (c.served p).ComesTo (.error e) p.servingLoads p.serving := by
  have hservice := Boundary.service_comesTo p
  rw [h] at hservice
  exact hservice.bind_error _

theorem served_of_ok {p : State} {s : Service} (h : p.served = .ok s) :
    (c.served p).ComesTo (c.method s p.serving).result
      (p.servingLoads ++ (c.method s p.serving).journal.calls) (c.method s p.serving).after := by
  have hservice := Boundary.service_comesTo p
  rw [h] at hservice
  exact hservice.bind_ok ⟨rfl, rfl, rfl⟩

/-- However a codec call ends, it closes nothing and replaces no service in the slot. -/
theorem keeps_perform (c : CodecCall) : (c.perform : Run ε _).Keeps State.Spares := by
  intro p
  cases hlacks : c.lacksPointer with
  | true =>
      rw [perform_of_lacksPointer hlacks]
      exact State.Spares.trail.refl p
  | false =>
      have h : ((c.perform : Run ε _) p).ComesTo _ _ _ := perform_comesTo hlacks p
      rw [h.calls, h.after]
      exact keeps_served c p

/-- Without a service to be found, a codec call has the status of the failure. -/
theorem perform_of_unserved (hpointers : c.lacksPointer = false) {p : State} {e : ServiceError}
    (h : p.served = .error e) :
    ((c.perform : Run ε _) p).ComesTo (.ok (e.status, c.spared)) p.servingLoads p.serving := by
  have hran : ((c.perform : Run ε _) p).ComesTo _ _ _ := perform_comesTo hpointers p
  obtain ⟨hresult, hcalls, hafter⟩ := served_of_error (c := c) h
  rw [hresult, hcalls, hafter] at hran
  exact hran

/-- With a service to be found, a codec call comes to what the method of that service comes to. -/
theorem perform_of_served (hpointers : c.lacksPointer = false) {p : State} {s : Service}
    (h : p.served = .ok s) :
    ((c.perform : Run ε _) p).ComesTo
      (.ok (Status.ofAttempt (c.method s p.serving).result, c.memory (c.method s p.serving).result))
      (p.servingLoads ++ (c.method s p.serving).journal.calls) (c.method s p.serving).after := by
  have hran : ((c.perform : Run ε _) p).ComesTo _ _ _ := perform_comesTo hpointers p
  obtain ⟨hresult, hcalls, hafter⟩ := served_of_ok (c := c) h
  rw [hresult, hcalls, hafter] at hran
  exact hran

/-- The cell and the slot are left by a codec call as they are found by its method. -/
theorem perform_serving (hpointers : c.lacksPointer = false) (p : State) :
    ((c.perform : Run ε _) p).after.cell = p.serving.cell ∧
      ((c.perform : Run ε _) p).after.slot = p.serving.slot := by
  cases hserved : p.served with
  | error e =>
      have hran : ((c.perform : Run ε _) p).ComesTo _ _ _ := perform_of_unserved hpointers hserved
      rw [hran.after]
      exact ⟨rfl, rfl⟩
  | ok s =>
      have hran : ((c.perform : Run ε _) p).ComesTo _ _ _ := perform_of_served hpointers hserved
      have hused := keeps_method s c p.serving
      rw [hran.after]
      exact ⟨hused.cell_eq, hused.slot_eq⟩

end CodecCall

end MediaCodec
