/-
Starting — opening the codec ahead of the first call.

A C caller may open the codec itself, under a library directory of its own, or leave that to the
first call.  Opening ahead reads its directory and the settings of the environment first, and
builds a configuration from them; only then does it look at what the process shares.  So two
things are not as they might be expected.

A process that shares an outcome already answers with it only to a caller whose directory and
environment can be read.  With nothing in the slot, any other caller is told of its configuration,
although that would have been passed over (`Boundary.start_of_stored`).

And a process that shares nothing yet keeps a configuration that cannot be built as a failure to
load where the first call comes upon it, and forgets it where opening ahead does.  The two ways of
opening agree exactly where the environment describes a configuration (`Boundary.agree_iff`).
-/

import MediaCodec.Proofs.Refinement

namespace MediaCodec

/-- The status of the outcome that a process shares. -/
def Status.ofShared (r : Except CodecError Dispatcher) : Status :=
  match r with
  | .ok _ => Status.ok
  | .error e => e.status

namespace State

variable {p : State} {r : Except CodecError Dispatcher} {config : Except SetupError Config}

theorem shared_of_stored (h : p.cell.stored = some r) : p.shared config = r := by
  rw [shared, h]

theorem sharingLoads_of_stored (h : p.cell.stored = some r) : p.sharingLoads config = [] := by
  rw [sharingLoads, h]

theorem filling_of_stored (h : p.cell.stored = some r) :
    p.filling config = { p with slot := (Service.ofShared r).toOption } := by
  rw [filling, shared_of_stored h, sharing_of_stored h]

end State

namespace Boundary

variable {p : State} {dir : Option Bytes} {d : Option Path} {r : Except CodecError Dispatcher}

theorem ofAttempt_ofShared (r : Except CodecError Dispatcher) (f : Service → α) :
    Status.ofAttempt (.ofExcept ((Service.ofShared r).map f)) = Status.ofShared r := by
  cases r <;> rfl

/-! ## With an outcome in the cell -/

/-- A configuration that cannot be built is an internal failure, whatever the process shares. -/
theorem start_of_misread {e : SetupError} (hdir : directory dir = some d) (hslot : p.slot = none)
    (hconfig : configUnder p d = .error e) :
    ((start dir : Run ε Status) p).ComesTo (.ok Status.internal) [] p := by
  have hran : ((start dir : Run ε Status) p).ComesTo _ _ _ := start_comesTo hdir
  rw [openShared_of_error hslot hconfig] at hran
  exact hran

theorem start_of_read {c : Config} (hdir : directory dir = some d) (hslot : p.slot = none)
    (hconfig : configUnder p d = .ok c) :
    ((start dir : Run ε Status) p).ComesTo (.ok (Status.ofShared (p.shared (.ok c))))
      (p.sharingLoads (.ok c)) (p.filling (.ok c)) := by
  have hran : ((start dir : Run ε Status) p).ComesTo _ _ _ := start_comesTo hdir
  obtain ⟨hresult, hcalls, hafter⟩ := openShared_of_ok hslot hconfig
  rw [hresult, hcalls, hafter, ofAttempt_ofShared] at hran
  exact hran

/-- What opening ahead does in a process that shares an outcome. -/
structure Recalls (dir : Option Bytes) (p : State) (r : Except CodecError Dispatcher)
    (ran : Ran ε Status) : Prop where
  /-- With a directory that is a text, and with a service in the slot or a configuration that can
  be built, the answer is the status of the outcome, and the outcome fills the slot. -/
  recalled : ∀ d, directory dir = some d → (p.slot ≠ none ∨ ∃ c, configUnder p d = .ok c) →
    ran.ComesTo (.ok (Status.ofShared r)) [] { p with slot := (Service.ofShared r).toOption }
  /-- A directory that is no text is refused. -/
  refused : directory dir = none → ran.ComesTo (.ok Status.invalidInput) [] p
  /-- With nothing in the slot, a configuration that cannot be built is an internal failure. -/
  misread : ∀ d e, directory dir = some d → p.slot = none → configUnder p d = .error e →
    ran.ComesTo (.ok Status.internal) [] p

/-- Opening ahead in a process that shares an outcome, and has nothing in the slot but what comes
from there. -/
theorem start_of_stored (dir : Option Bytes) (hcell : p.cell.stored = some r)
    (hslot : p.slot = none ∨ ∃ d, r = .ok d ∧ p.slot = some ⟨d⟩) :
    Recalls dir p r ((start dir : Run ε Status) p) := by
  refine ⟨?_, ?_, fun d e hdir hfree hconfig => start_of_misread hdir hfree hconfig⟩
  · intro d hdir hread
    -- Only an empty slot makes the configuration matter, and it is then passed over for the outcome.
    rcases hslot with hfree | ⟨dispatcher, rfl, hfilled⟩
    · obtain ⟨c, hconfig⟩ := hread.resolve_left (fun hne => hne hfree)
      have hran : ((start dir : Run ε Status) p).ComesTo _ _ _ := start_of_read hdir hfree hconfig
      rw [State.shared_of_stored hcell, State.sharingLoads_of_stored hcell,
        State.filling_of_stored hcell] at hran
      exact hran
    · have hran : ((start dir : Run ε Status) p).ComesTo _ _ _ := start_comesTo hdir
      rw [openShared_of_some hfilled] at hran
      have hsame : { p with slot := (Service.ofShared (.ok dispatcher)).toOption } = p := by
        rw [show (Service.ofShared (.ok dispatcher)).toOption = p.slot from hfilled.symm]
      rw [hsame]
      exact hran
  · intro hdir
    have hran : (start dir : Run ε Status) p = _ := start_of_refused hdir
    rw [hran]
    exact ⟨rfl, rfl, rfl⟩

theorem start_of_stored_echoing :
    let p := (Step.global.perform .echoing).after
    p.cell.stored = some (.ok Service.echo.dispatcher) ∧ p.slot = none ∧
      Recalls (some [47, 120]) p (.ok Service.echo.dispatcher)
        ((start (some [47, 120]) : Run ServiceError Status) p) :=
  ⟨rfl, rfl, start_of_stored _ rfl (.inl rfl)⟩

/-- An outcome in the cell is not always what opening ahead answers with: the codec is there, the
input limit in the environment has become unreadable since, and the answer is a failure. -/
theorem start_after_misread_limit :
    let p := (Step.global.perform .echoing).after
    let q := ((Step.setVariable Settings.maxInputBytesVariable (some [120])).perform p).after
    q.cell.stored = some (.ok Service.echo.dispatcher) ∧ q.slot = none ∧
      Status.ofShared (.ok Service.echo.dispatcher) = Status.ok ∧
      ((start none : Run ServiceError Status) q).result = .ok Status.internal ∧
      Status.internal ≠ Status.ok :=
  ⟨rfl, rfl, rfl, rfl, by decide⟩

/-! ## With nothing in the cell -/

/-- Opening ahead and a first codec call leave the same in the cell and in the slot, and a failure
of the one is a failure of the other, under the same status. -/
structure Agree (started : Ran ε Status) (called : Ran ε (Status × CallerMemory)) : Prop where
  cell : started.after.cell = called.after.cell
  slot : started.after.slot = called.after.slot
  status : ∀ s, started.result = .ok s → s ≠ Status.ok → ∃ m, called.result = .ok (s, m)

/-- Without a directory of its own, opening ahead uses the configuration of the environment. -/
theorem configUnder_none (p : State) : configUnder p none = Service.environmentConfig p := by
  unfold configUnder settings Service.environmentConfig
  cases Settings.ofEnvironment p.environment <;> rfl

variable {c : CodecCall} {e : SetupError}

/-- A codec call that comes upon a configuration that cannot be built keeps it as a failure to
load. -/
theorem perform_of_misread (hpointers : c.lacksPointer = false) (hcell : p.cell.stored = none)
    (hslot : p.slot = none) (hconfig : Service.environmentConfig p = .error e) :
    ((c.perform : Run ε _) p).ComesTo (.ok (Status.backendLoad, c.spared)) []
      { p with cell := ⟨some (.error (.backendLoad (.configuration e)))⟩ } := by
  have hshared : p.shared (.error e) = .error (.backendLoad (.configuration e)) := by
    rw [State.shared, hcell]
    rfl
  have hserved : p.served = .error (.codec (.backendLoad (.configuration e))) := by
    rw [State.served_of_none hslot, hconfig, hshared]
    rfl
  have hloads : p.servingLoads = [] := by
    rw [State.servingLoads_of_none hslot, hconfig, State.sharingLoads, hcell]
    rfl
  have hserving : p.serving = { p with cell := ⟨some (.error (.backendLoad (.configuration e)))⟩ } := by
    rw [State.serving_of_none hslot, hconfig, State.filling, hshared, State.sharing, hcell]
    simp [Dispatcher.outcome, Dispatcher.loads, Dispatcher.handles, Service.ofShared,
      Except.toOption, hslot]
  have hran : ((c.perform : Run ε _) p).ComesTo _ _ _ :=
    CodecCall.perform_of_unserved hpointers hserved
  rw [hloads, hserving] at hran
  exact hran

theorem agree_of_read {config : Config} (hpointers : c.lacksPointer = false) (hslot : p.slot = none)
    (hconfig : Service.environmentConfig p = .ok config) :
    Agree ((start none : Run ε Status) p) ((c.perform : Run ε _) p) := by
  have hstart : ((start none : Run ε Status) p).ComesTo _ _ _ :=
    start_of_read rfl hslot ((configUnder_none p).trans hconfig)
  obtain ⟨hcell, hslot'⟩ := CodecCall.perform_serving (ε := ε) hpointers p
  rw [State.serving_of_none hslot, hconfig] at hcell hslot'
  refine ⟨?_, ?_, ?_⟩
  · rw [hstart.after, hcell]
  · rw [hstart.after, hslot']
  · intro s hs hne
    obtain rfl := Attempt.ok.inj (hstart.result.symm.trans hs)
    cases hshared : p.shared (.ok config) with
    | ok d =>
        rw [hshared] at hne
        exact absurd rfl hne
    | error e =>
        have hserved : p.served = .error (.codec e) := by
          rw [State.served_of_none hslot, hconfig, hshared]
          rfl
        have hran : ((c.perform : Run ε _) p).ComesTo _ _ _ :=
          CodecCall.perform_of_unserved hpointers hserved
        exact ⟨_, hran.result⟩

/-- In a process that shares nothing yet, opening ahead and a first codec call agree exactly where
the environment describes a configuration. -/
theorem agree_iff (hpointers : c.lacksPointer = false) (hcell : p.cell.stored = none)
    (hslot : p.slot = none) :
    Agree ((start none : Run ε Status) p) ((c.perform : Run ε _) p) ↔
      ∃ config, Service.environmentConfig p = .ok config := by
  constructor
  · intro hagree
    cases hconfig : Service.environmentConfig p with
    | ok config => exact ⟨config, rfl⟩
    | error e =>
        have hstart : ((start none : Run ε Status) p).ComesTo _ _ _ :=
          start_of_misread rfl hslot ((configUnder_none p).trans hconfig)
        have hcall : ((c.perform : Run ε _) p).ComesTo _ _ _ :=
          perform_of_misread hpointers hcell hslot hconfig
        have hkept := congrArg Cell.stored hagree.cell
        rw [hstart.after, hcall.after, hcell] at hkept
        cases hkept
  · rintro ⟨config, hconfig⟩
    exact agree_of_read hpointers hslot hconfig

theorem agree_iff_echoing :
    let call : CodecCall := .getSize ⟨some (.ofBytes [7, 8]), 2⟩ (some ⟨0, 0, 0⟩)
    call.lacksPointer = false ∧ State.echoing.cell.stored = none ∧ State.echoing.slot = none ∧
      (Agree ((start none : Run ServiceError Status) .echoing) (call.perform .echoing) ↔
        ∃ config, Service.environmentConfig .echoing = .ok config) :=
  ⟨rfl, rfl, rfl, agree_iff rfl rfl rfl⟩

/-- Under an input limit of zero, opening ahead is an internal failure that nothing is kept of, and
a first call with a valid input is a failure to load that stays in the cell. -/
theorem disagree_under_zero_limit :
    let env := Environment.empty.set Settings.maxInputBytesVariable (some [48])
    let p : State := { State.echoing with environment := env }
    let call : CodecCall := .stream .silkEncode ⟨some (.ofBytes [1, 2]), 2⟩ true
    let started := (start none : Run ServiceError Status) p
    let called := (call.perform : Run ServiceError _) p
    started.result = .ok Status.internal ∧ started.after.cell.stored = none ∧
      called.result = .ok (Status.backendLoad, .deliveries []) ∧
      called.after.cell.stored = some (.error (.backendLoad (.configuration .zeroInputLimit))) ∧
      ¬ Agree started called := by
  refine ⟨rfl, rfl, rfl, rfl, fun hagree => ?_⟩
  obtain ⟨m, hm⟩ := hagree.status Status.internal rfl (by decide)
  have hstatus : Status.backendLoad = Status.internal := congrArg Prod.fst (Attempt.ok.inj hm)
  exact absurd hstatus (by decide)

end Boundary

end MediaCodec
