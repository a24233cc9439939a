/-
Processes — all that can happen in one, step by step.

Callers ask for the shared service, with a configuration or without; they hand a service of
their own to the entry points for C callers; C callers open, call and close; holders of a handle
use it; and the environment changes.  A run of a process is a list of such steps.

What a step does to the state and what it calls is said once (`Step.does_perform`), and whatever
steps keep is read off from that.  In particular a step touches the shared cell and the slot of the
C callers in one of four ways, and `Step.moves_perform` says which.  It leaves both as they are; or
it asks for what the process shares; or it does so and fills the empty slot with it; or it installs
a service in the empty slot.  Loads are made where the process is asked for what it shares, and
nowhere else.
-/

import MediaCodec.Proofs.Closing
import MediaCodec.Proofs.Serving

namespace MediaCodec

/-- Whether the call loads a codec. -/
def Call.isLoad : Call → Bool
  | .load _ _ => true
  | _ => false

/-- A use of a codec loads nothing. -/
theorem State.Used.loads_eq_nil {h : Handle} {p q : State} {cs : List Call}
    (u : State.Used h p cs q) : cs.filter Call.isLoad = [] := by
  refine List.filter_eq_nil_iff.mpr fun c hc => ?_
  obtain ⟨op, bytes, rfl⟩ := u.invokes c hc
  exact Bool.false_ne_true

/-- Where a process is asked for what it shares, it makes loads and no other calls. -/
theorem State.filter_sharingLoads (p : State) (config : Except SetupError Config) :
    (p.sharingLoads config).filter Call.isLoad = p.sharingLoads config := by
  unfold State.sharingLoads
  cases p.cell.stored with
  | some r => rfl
  | none =>
      dsimp only
      rcases Dispatcher.loads_cases config p with h | ⟨path, told, h⟩
      · rw [h]
        rfl
      · rw [h]
        rfl

namespace Boundary

variable {p : State} {s : Service}

/-- With the slot empty, a C caller closes nothing. -/
theorem close_of_none (hslot : p.slot = none) :
    (close : Run ε Status) p = ⟨[], .ok Status.ok, p⟩ := by
  simp [close, hslot]

theorem close_of_closed (hslot : p.slot = some s) (hclosed : p.hasClosed s.handle = true) :
    (close : Run ε Status) p = ⟨[], .ok Status.ok, p⟩ := by
  have hran : (s.close : Run ε Bool) p = ⟨[], .ok false, p⟩ := Handle.close_of_closed hclosed
  rw [close, Run.get_bind_apply, hslot]
  show ((s.close : Run ε Bool) >>= _) p = _
  rw [Run.bind_of_eq_ok hran]
  rfl

/-- The handle in the slot is closed by the first close of a C caller. -/
theorem close_of_open (hslot : p.slot = some s) (hopen : p.hasClosed s.handle = false) :
    ((close : Run ε Status) p).ComesTo (.ok Status.ok)
      [.release s.handle.id s.handle.backend.release.told] (p.closing s.handle) := by
  have hran : ((s.close : Run ε Bool) p).ComesTo _ _ _ := Handle.close_of_open hopen
  rw [close, Run.get_bind_apply, hslot]
  exact hran.map_ok fun _ => Status.ok

end Boundary

/-- One thing that happens in a process. -/
inductive Step
  | global
  | initGlobal (c : Config)
  | install (s : Service)
  | init (dir : Option Bytes)
  | close
  | codec (c : CodecCall)
  | use (h : Handle) (u : Use)
  | setVariable (name : String) (value : Option Bytes)

/-- What a step answers with. -/
inductive Reply
  | service (s : Service)
  /-- Whether the slot was free. -/
  | installed (free : Bool)
  | status (s : Status)
  | codec (s : Status) (m : CallerMemory)
  | answer (a : Use.Answer)
  | done

namespace Step

def perform : Step → Run ServiceError Reply
  | global => do
    return .service (← Service.global)
  | initGlobal c => do
    return .service (← Service.initGlobal c)
  | install s => do
    return .installed (← Boundary.install s)
  | init dir => do
    return .status (← Boundary.start dir)
  | close => do
    return .status (← Boundary.close)
  | codec c => do
    let (status, memory) ← c.perform
    return .codec status memory
  | use h u => do
    return .answer (← u.perform h)
  | setVariable name value => do
    Run.modify fun p => { p with environment := p.environment.set name value }
    return .done

/-- The configuration under which a step asks for what the process shares, if it asks at all. -/
def config? (p : State) : Step → Option (Except SetupError Config)
  | global => some (Service.environmentConfig p)
  | initGlobal c => some (.ok c)
  | init dir =>
    match p.slot, Boundary.directory dir with
    | none, some d => (Boundary.configUnder p d).toOption.map .ok
    | _, _ => none
  | codec c =>
    if c.lacksPointer || p.slot.isSome then none else some (Service.environmentConfig p)
  | install _ | close | use _ _ | setVariable _ _ => none

variable {k : Step} {p q : State} {cs : List Call} {config : Except SetupError Config}

/-! ## What a step does -/

/-- What a step can do: the calls that it makes, and the state that it leaves. -/
inductive Does (k : Step) (p : State) : List Call → State → Prop
  | rests : Does k p [] p
  | sets (name : String) (value : Option Bytes) :
      Does k p [] { p with environment := p.environment.set name value }
  | shares (config : Except SetupError Config) (asked : k.config? p = some config) :
      Does k p (p.sharingLoads config) (p.sharing config)
  | fills (config : Except SetupError Config) (asked : k.config? p = some config)
      (free : p.slot = none) : Does k p (p.sharingLoads config) (p.filling config)
  | installs (s : Service) (asked : k = install s) (free : p.slot = none) :
      Does k p [] { p with slot := some s }
  /-- The open handle in the slot is closed, or the one that the step uses. -/
  | closes (h : Handle) (known : (∃ s, p.slot = some s ∧ s.handle = h) ∨ ∃ u, k = use h u)
      (isOpen : p.hasClosed h = false) :
      Does k p [.release h.id h.backend.release.told] (p.closing h)
  | uses {h : Handle} {cs : List Call} {q : State} (used : State.Used h p cs q) : Does k p cs q
  /-- The empty slot is filled, and its service used. -/
  | serves {h : Handle} {cs : List Call} {q : State} (config : Except SetupError Config)
      (asked : k.config? p = some config) (free : p.slot = none)
      (used : State.Used h (p.filling config) cs q) : Does k p (p.sharingLoads config ++ cs) q

namespace Does

theorem of_comesTo {r : Ran ε α} {result : Attempt ε α} (h : r.ComesTo result cs q)
    (hdoes : Does k p cs q) : Does k p r.journal.calls r.after := by
  rw [h.calls, h.after]
  exact hdoes

/-- The reply that is made of an answer does not matter. -/
theorem map {r : Run ε α} (h : Does k p (r p).journal.calls (r p).after) (f : α → β) :
    Does k p ((r >>= fun a => pure (f a)) p).journal.calls
      ((r >>= fun a => pure (f a)) p).after := by
  obtain ⟨hcalls, hafter⟩ := Run.frame_map r f p
  rw [hcalls, hafter]
  exact h

end Does

theorem does_install (s : Service) (p : State) :
    Does (install s) p ((install s).perform p).journal.calls ((install s).perform p).after := by
  refine Does.map (r := Boundary.install s) ?_ Reply.installed
  cases hslot : p.slot with
  | some old =>
      rw [Boundary.install_of_some s hslot]
      exact .rests
  | none =>
      rw [Boundary.install_of_none s hslot]
      exact .installs s rfl hslot

theorem does_init (dir : Option Bytes) (p : State) :
    Does (init dir) p ((init dir).perform p).journal.calls ((init dir).perform p).after := by
  refine Does.map (r := Boundary.start dir) ?_ Reply.status
  cases hdir : Boundary.directory dir with
  | none =>
      rw [Boundary.start_of_refused hdir]
      exact .rests
  | some d =>
      have hstart : ((Boundary.start dir : Run ServiceError Status) p).ComesTo _ _ _ :=
        Boundary.start_comesTo hdir
      rw [hstart.calls, hstart.after]
      cases hslot : p.slot with
      | some s =>
          rw [Boundary.openShared_of_some hslot]
          exact .rests
      | none =>
          cases hconfig : Boundary.configUnder p d with
          | error e =>
              rw [Boundary.openShared_of_error hslot hconfig]
              exact .rests
          | ok c =>
              have hasked : (init dir).config? p = some (.ok c) := by
                simp [config?, hslot, hdir, hconfig, Except.toOption]
              exact .of_comesTo (Boundary.openShared_of_ok hslot hconfig)
                (.fills (.ok c) hasked hslot)

theorem does_close (p : State) :
    Does close p (close.perform p).journal.calls (close.perform p).after := by
  refine Does.map (r := Boundary.close) ?_ Reply.status
  cases hslot : p.slot with
  | none =>
      rw [Boundary.close_of_none hslot]
      exact .rests
  | some s =>
      cases hclosed : p.hasClosed s.handle with
      | true =>
          rw [Boundary.close_of_closed hslot hclosed]
          exact .rests
      | false =>
          exact .of_comesTo (Boundary.close_of_open hslot hclosed)
            (.closes s.handle (.inl ⟨s, hslot, rfl⟩) hclosed)

theorem perform_codec (c : CodecCall) :
    (codec c).perform = c.perform >>= fun out => pure (.codec out.1 out.2) := rfl

theorem does_codec (c : CodecCall) (p : State) :
    Does (codec c) p ((codec c).perform p).journal.calls ((codec c).perform p).after := by
  refine Does.map (r := c.perform) ?_ fun out => Reply.codec out.1 out.2
  cases hlacks : c.lacksPointer with
  | true =>
      rw [CodecCall.perform_of_lacksPointer hlacks]
      exact .rests
  | false =>
      cases hslot : p.slot with
      | some s =>
          have hran : ((c.perform : Run ServiceError _) p).ComesTo _ _ _ :=
            CodecCall.perform_of_served hlacks (State.served_of_some hslot)
          rw [hran.calls, hran.after, State.servingLoads_of_some hslot,
            State.serving_of_some hslot]
          exact .uses (CodecCall.keeps_method s c p)
      | none =>
          have hasked : (codec c).config? p = some (Service.environmentConfig p) := by
            simp [config?, hlacks, hslot]
          cases hserved : p.served with
          | error e =>
              have hran : ((c.perform : Run ServiceError _) p).ComesTo _ _ _ :=
                CodecCall.perform_of_unserved hlacks hserved
              rw [State.servingLoads_of_none hslot, State.serving_of_none hslot] at hran
              exact .of_comesTo hran (.fills _ hasked hslot)
          | ok s =>
              -- The slot is filled before the method runs, and the method leaves it alone.
              have hran : ((c.perform : Run ServiceError _) p).ComesTo _ _ _ :=
                CodecCall.perform_of_served hlacks hserved
              rw [State.servingLoads_of_none hslot, State.serving_of_none hslot] at hran
              exact .of_comesTo hran (.serves _ hasked hslot (CodecCall.keeps_method s c _))

theorem does_use (h : Handle) (u : Use) (p : State) :
    Does (use h u) p ((use h u).perform p).journal.calls ((use h u).perform p).after := by
  refine Does.map (r := u.perform h) ?_ Reply.answer
  cases hclose : u.isClose with
  | false => exact .uses (Use.keeps_perform hclose p)
  | true =>
      cases hclosed : p.hasClosed h with
      | true =>
          rw [Use.perform_close_of_closed hclose hclosed]
          exact .rests
      | false =>
          exact .of_comesTo (Use.perform_close_of_open hclose hclosed)
            (.closes h (.inr ⟨u, rfl⟩) hclosed)

/-- Every step does one of these things. -/
theorem does_perform (k : Step) (p : State) :
    Does k p (k.perform p).journal.calls (k.perform p).after := by
  cases k with
  | global => exact .map (.of_comesTo (Service.global_comesTo p) (.shares _ rfl)) Reply.service
  | initGlobal c =>
      exact .map (.of_comesTo (Service.initGlobal_comesTo c p) (.shares _ rfl)) Reply.service
  | install s => exact does_install s p
  | init dir => exact does_init dir p
  | close => exact does_close p
  | codec c => exact does_codec c p
  | use h u => exact does_use h u p
  | setVariable name value => exact .sets name value

/-! ## The cell and the slot -/

/-- What a step does to the cell and to the slot, and what it loads. -/
inductive Moves (k : Step) (p : State) (cs : List Call) (q : State) : Prop
  | keeps (cell : q.cell = p.cell) (slot : q.slot = p.slot) (loads : cs.filter Call.isLoad = [])
  | shares (config : Except SetupError Config) (asked : k.config? p = some config)
      (cell : q.cell = (p.sharing config).cell) (slot : q.slot = p.slot)
      (loads : cs.filter Call.isLoad = p.sharingLoads config)
  | fills (config : Except SetupError Config) (asked : k.config? p = some config)
      (free : p.slot = none) (cell : q.cell = (p.sharing config).cell)
      (slot : q.slot = (Service.ofShared (p.shared config)).toOption)
      (loads : cs.filter Call.isLoad = p.sharingLoads config)
  | installs (s : Service) (asked : k = install s) (free : p.slot = none) (cell : q.cell = p.cell)
      (slot : q.slot = some s) (loads : cs.filter Call.isLoad = [])

theorem Does.moves (h : Does k p cs q) : Moves k p cs q := by
  cases h with
  | rests => exact .keeps rfl rfl rfl
  | sets name value => exact .keeps rfl rfl rfl
  | shares config asked =>
      exact .shares config asked rfl State.slot_sharing (p.filter_sharingLoads config)
  | fills config asked free =>
      exact .fills config asked free rfl rfl (p.filter_sharingLoads config)
  | installs s asked free => exact .installs s asked free rfl rfl rfl
  | closes h known isOpen => exact .keeps rfl rfl rfl
  | uses used => exact .keeps used.cell_eq used.slot_eq used.loads_eq_nil
  | serves config asked free used =>
      refine .fills config asked free used.cell_eq used.slot_eq ?_
      rw [List.filter_append, p.filter_sharingLoads, used.loads_eq_nil, List.append_nil]

/-- Every step moves in one of the four ways. -/
theorem moves_perform (k : Step) (p : State) :
    Moves k p (k.perform p).journal.calls (k.perform p).after := (k.does_perform p).moves

end Step

end MediaCodec
