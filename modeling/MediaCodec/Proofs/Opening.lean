/-
Opening — what it comes to, what it calls, and what it leaves behind.

Whether a configuration opens is settled in two steps.  Its machine and its settings lead to an
artifact, or to a failure; that is a matter of the configuration and the working directory, and
nothing is called for it.  The artifact is then loaded, by the one call that opening makes.

So an opening has an outcome, its loads (one at most), and a state after it, and all three are
functions of the configuration and the state before.  The shared service keeps the outcome of
the first opening, and is what it is: `State.shared` is that outcome, or the one of opening now.
-/

import MediaCodec.Proofs.Run
import MediaCodec.Shared

namespace MediaCodec

/-! ## One configuration -/

namespace Config

variable {c : Config} {p : State}

/-- The artifact that a configuration leads to. -/
def target (c : Config) (cwd : Path) : Except CodecError Artifact :=
  match Platform.resolve? c.host.os c.host.arch with
  | none => .error (.unsupportedPlatform c.host.os c.host.arch)
  | some id => (c.settings.artifact cwd id).mapError .backendLoad

/-- What becomes of opening a configuration. -/
def outcome (c : Config) (p : State) : Except CodecError Handle :=
  match c.target p.machine.cwd with
  | .error e => .error e
  | .ok a =>
    match (c.loader.load p.past a.path).result with
    | .error e => .error (.backendLoad (.host e))
    | .ok backend => .ok ⟨p.opened, some a, backend⟩

/-- The calls that opening a configuration makes. -/
def loads (c : Config) (p : State) : List Call :=
  match c.target p.machine.cwd with
  | .error _ => []
  | .ok a => [.load a.path c.loader.told]

/-- How many handles opening a configuration makes. -/
def handles (c : Config) (p : State) : Nat :=
  match c.outcome p with
  | .error _ => 0
  | .ok _ => 1

theorem target_of_unresolved (h : Platform.resolve? c.host.os c.host.arch = none) (cwd : Path) :
    c.target cwd = .error (.unsupportedPlatform c.host.os c.host.arch) := by
  rw [target, h]

theorem target_of_unplaced {id : BackendId} {cwd : Path} {f : LoadFault}
    (h : Platform.resolve? c.host.os c.host.arch = some id)
    (hartifact : c.settings.artifact cwd id = .error f) :
    c.target cwd = .error (.backendLoad f) := by
  simp only [target, h, hartifact]
  rfl

theorem target_of_placed {id : BackendId} {cwd : Path} {a : Artifact}
    (h : Platform.resolve? c.host.os c.host.arch = some id)
    (hartifact : c.settings.artifact cwd id = .ok a) : c.target cwd = .ok a := by
  simp only [target, h, hartifact]
  rfl

end Config

/-- The state after calls that made handles. -/
def State.opening (p : State) (cs : List Call) (handles : Nat) : State :=
  { p with past := p.past ++ cs, opened := p.opened + handles }

@[simp] theorem State.opening_nil (p : State) : p.opening [] 0 = p := by
  simp [opening]

namespace Handle

variable {c : Config} {a : Artifact} {p : State}

theorem load_of_error {loader : Loader} {e : HostError}
    (h : (loader.load p.past a.path).result = .error e) :
    (load a loader p).ComesTo (.error (.backendLoad (.host e))) [.load a.path loader.told]
      (p.opening [.load a.path loader.told] 0) := by
  refine ⟨?_, ?_, ?_⟩ <;> simp [load, h, State.called, State.opening]

theorem load_of_ok {loader : Loader} {b : Backend}
    (h : (loader.load p.past a.path).result = .ok b) :
    (load a loader p).ComesTo (.ok ⟨p.opened, some a, b⟩) [.load a.path loader.told]
      (p.opening [.load a.path loader.told] 1) := by
  refine ⟨?_, ?_, ?_⟩ <;> simp [load, create, h, State.called, State.opening]

/-- What is noted when a machine resolves to a codec. -/
def resolvedEvent (h : Host) (id : BackendId) : Event :=
  .say platformTarget .debug "Resolved codec backend"
    [("os", .text h.os), ("arch", .text h.arch), ("backend", .shown id.name)]

end Handle

namespace Host

variable {h : Host} {p : State}

theorem resolve_of_none (hnone : Platform.resolve? h.os h.arch = none) :
    h.resolve p = ⟨[], .error (.unsupportedPlatform h.os h.arch), p⟩ := by
  simp only [resolve, hnone]
  rfl

theorem resolve_of_some {id : BackendId} (hsome : Platform.resolve? h.os h.arch = some id) :
    h.resolve p = ⟨[.event (Handle.resolvedEvent h id)], .ok id, p⟩ := by
  simp only [resolve, hsome]
  rfl

end Host

namespace Handle

variable {c : Config} {p : State}

theorem ofConfig_of_unresolved (h : Platform.resolve? c.host.os c.host.arch = none) :
    ofConfig c p = ⟨[], .error (.unsupportedPlatform c.host.os c.host.arch), p⟩ := by
  have hresolve := Host.resolve_of_none (p := p) h
  have hresult := congrArg Ran.result hresolve
  rw [ofConfig, Run.bind_of_error hresult, hresolve]

theorem ofConfig_of_resolved {id : BackendId}
    (h : Platform.resolve? c.host.os c.host.arch = some id) :
    ofConfig c p =
      ((match c.settings.artifact p.machine.cwd id with
        | .error f => Run.fail (CodecError.backendLoad f)
        | .ok a => load a c.loader) p).prepend [.event (resolvedEvent c.host id)] := by
  rw [ofConfig, Run.bind_of_eq_ok (Host.resolve_of_some h)]
  rfl

/-- Opening a configuration comes to its outcome, by its loads. -/
theorem ofConfig_comesTo (c : Config) (p : State) :
    (ofConfig c p).ComesTo (.ofExcept (c.outcome p)) (c.loads p)
      (p.opening (c.loads p) (c.handles p)) := by
  cases hid : Platform.resolve? c.host.os c.host.arch with
  | none =>
      have htarget := Config.target_of_unresolved hid p.machine.cwd
      rw [ofConfig_of_unresolved hid]
      simp only [Config.handles, Config.outcome, Config.loads, htarget]
      exact ⟨rfl, rfl, p.opening_nil.symm⟩
  | some id =>
      rw [ofConfig_of_resolved hid]
      refine Ran.ComesTo.prepend ?_ rfl
      cases hartifact : c.settings.artifact p.machine.cwd id with
      | error f =>
          have htarget := Config.target_of_unplaced hid hartifact
          simp only [Config.handles, Config.outcome, Config.loads, htarget]
          exact ⟨rfl, rfl, p.opening_nil.symm⟩
      | ok a =>
          have htarget := Config.target_of_placed hid hartifact
          cases hload : (c.loader.load p.past a.path).result with
          | error e =>
              simp only [Config.handles, Config.outcome, Config.loads, htarget, hload]
              exact load_of_error hload
          | ok b =>
              simp only [Config.handles, Config.outcome, Config.loads, htarget, hload]
              exact load_of_ok hload

end Handle

/-! ## The configuration of a dispatcher, which may be none -/

namespace Dispatcher

/-- What becomes of a dispatcher that is opened under a configuration. -/
def outcome (config : Except SetupError Config) (p : State) : Except CodecError Dispatcher :=
  match config with
  | .error e => .error (.backendLoad (.configuration e))
  | .ok c => (c.outcome p).map fun h => ⟨h, .ofSettings c.settings⟩

/-- The calls that opening a dispatcher makes. -/
def loads (config : Except SetupError Config) (p : State) : List Call :=
  match config with
  | .error _ => []
  | .ok c => c.loads p

/-- How many handles opening a dispatcher makes. -/
def handles (config : Except SetupError Config) (p : State) : Nat :=
  match config with
  | .error _ => 0
  | .ok c => c.handles p

variable {config : Except SetupError Config} {p : State}

theorem ofConfig_comesTo (config : Except SetupError Config) (p : State) :
    (ofConfig config p).ComesTo (.ofExcept (outcome config p)) (loads config p)
      (p.opening (loads config p) (handles config p)) := by
  cases config with
  | error e => exact ⟨rfl, rfl, p.opening_nil.symm⟩
  | ok c => exact (Handle.ofConfig_comesTo c p).map _

/-- A dispatcher has the handle and the options of the configuration it was opened under. -/
theorem exists_of_outcome {d : Dispatcher} (h : outcome config p = .ok d) :
    ∃ c, config = .ok c ∧ c.outcome p = .ok d.handle ∧ d.options = .ofSettings c.settings := by
  cases config with
  | error e => cases h
  | ok c =>
      rw [outcome] at h
      cases hc : c.outcome p with
      | error e =>
          rw [hc] at h
          cases h
      | ok handle =>
          rw [hc] at h
          obtain rfl := Except.ok.inj h
          exact ⟨c, rfl, hc, rfl⟩

theorem options_of_outcome {d : Dispatcher} (h : outcome config p = .ok d) :
    ∃ c, config = .ok c ∧ d.options = .ofSettings c.settings := by
  obtain ⟨c, hconfig, -, hoptions⟩ := exists_of_outcome h
  exact ⟨c, hconfig, hoptions⟩

/-- Opening calls nothing but a loader, and that once at most. -/
theorem loads_cases (config : Except SetupError Config) (p : State) :
    loads config p = [] ∨ ∃ path told, loads config p = [.load path told] := by
  cases config with
  | error e => exact .inl rfl
  | ok c =>
      simp only [loads, Config.loads]
      cases c.target p.machine.cwd with
      | error e => exact .inl rfl
      | ok a => exact .inr ⟨a.path, c.loader.told, rfl⟩

end Dispatcher

/-! ## The shared service -/

namespace State

variable {p : State} {config : Except SetupError Config}

/-- The outcome that the process shares, once it has been asked for under a configuration. -/
def shared (p : State) (config : Except SetupError Config) : Except CodecError Dispatcher :=
  match p.cell.stored with
  | some r => r
  | none => Dispatcher.outcome config p

/-- The state of a process that has been asked for what it shares. -/
def sharing (p : State) (config : Except SetupError Config) : State :=
  match p.cell.stored with
  | some _ => p
  | none =>
    { p.opening (Dispatcher.loads config p) (Dispatcher.handles config p) with
      cell := ⟨some (Dispatcher.outcome config p)⟩ }

/-- The calls that a process makes when it is asked for what it shares. -/
def sharingLoads (p : State) (config : Except SetupError Config) : List Call :=
  match p.cell.stored with
  | some _ => []
  | none => Dispatcher.loads config p

theorem sharing_of_stored {r : Except CodecError Dispatcher} (h : p.cell.stored = some r) :
    p.sharing config = p := by
  rw [sharing, h]

@[simp] theorem stored_sharing :
    (p.sharing config).cell.stored = some (p.shared config) := by
  unfold sharing shared
  cases h : p.cell.stored with
  | some r => exact h
  | none => rfl

@[simp] theorem slot_sharing : (p.sharing config).slot = p.slot := by
  unfold sharing
  cases p.cell.stored <;> rfl

@[simp] theorem closed_sharing : (p.sharing config).closed = p.closed := by
  unfold sharing
  cases p.cell.stored <;> rfl

end State

namespace Service

variable {config : State → Except SetupError Config} {p : State}

/-- The answer of the shared service, from the outcome that the process keeps. -/
def ofShared (r : Except CodecError Dispatcher) : Except ServiceError Service :=
  match r with
  | .error e => .error (.codec e)
  | .ok d => .ok ⟨d⟩

/-- What is there already is handed out again. -/
theorem globalWith_of_stored {r : Except CodecError Dispatcher} (h : p.cell.stored = some r) :
    globalWith config p = ⟨[], .ofExcept (ofShared r), p⟩ := by
  rw [globalWith, Cell.getOrInit_of_stored _ _ h]
  cases r with
  | error e | ok d => rfl

/-- Otherwise it is opened, and how that ends is kept. -/
theorem globalWith_of_empty (h : p.cell.stored = none) :
    globalWith config p =
      ⟨(Dispatcher.ofConfig (config p) p).journal,
        ((Dispatcher.ofConfig (config p) p).result.mapError .codec).map Service.mk,
        { (Dispatcher.ofConfig (config p) p).after with
          cell := ⟨(Dispatcher.ofConfig (config p) p).result.returned?⟩ }⟩ := by
  rw [globalWith, Cell.getOrInit_of_empty _ _ h]
  rfl

theorem globalWith_comesTo (config : State → Except SetupError Config) (p : State) :
    (globalWith config p).ComesTo (.ofExcept (ofShared (p.shared (config p))))
      (p.sharingLoads (config p)) (p.sharing (config p)) := by
  obtain ⟨hresult, hcalls, hafter⟩ := Dispatcher.ofConfig_comesTo (config p) p
  cases hcell : p.cell.stored with
  | some r =>
      rw [globalWith_of_stored hcell, State.shared, State.sharing, State.sharingLoads, hcell]
      exact ⟨rfl, rfl, rfl⟩
  | none =>
      rw [globalWith_of_empty hcell, hresult, hafter, State.shared, State.sharing,
        State.sharingLoads, hcell]
      refine ⟨?_, hcalls, ?_⟩
      · cases Dispatcher.outcome (config p) p with
        | error e | ok d => rfl
      · cases Dispatcher.outcome (config p) p with
        | error e | ok d => rfl

theorem global_comesTo (p : State) :
    (global p).ComesTo (.ofExcept (ofShared (p.shared (environmentConfig p))))
      (p.sharingLoads (environmentConfig p)) (p.sharing (environmentConfig p)) :=
  globalWith_comesTo environmentConfig p

/-- What is said about a configuration that is passed over. -/
def passedOver : Event :=
  .say serviceTarget .warn "Codec backend already initialized; ignoring new configuration" []

/-- An explicit configuration is one more configuration; that it is passed over is only noted. -/
theorem initGlobal_comesTo (c : Config) (p : State) :
    (initGlobal c p).ComesTo (.ofExcept (ofShared (p.shared (.ok c))))
      (p.sharingLoads (.ok c)) (p.sharing (.ok c)) := by
  have h := globalWith_comesTo (fun _ => .ok c) p
  cases hcell : p.cell.isInitialized with
  | true =>
      have hran : initGlobal c p = (globalWith (fun _ => .ok c) p).prepend [.event passedOver] := by
        simp [initGlobal, hcell, passedOver]
      rw [hran]
      exact h.prepend rfl
  | false =>
      have hran : initGlobal c p = globalWith (fun _ => .ok c) p := by simp [initGlobal, hcell]
      rw [hran]
      exact h

end Service

end MediaCodec
