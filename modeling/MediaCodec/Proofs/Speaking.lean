/-
Speaking — under which targets the library logs.

The filter that a level stands for names six parts of the library, each by the beginning of its
targets.  Nothing ties the parts that do log to the parts that are named, so that it has to be
looked at, call by call, that each of them speaks under a target of its own
(`Step.speaks_perform`).  A part that was left out would be cut off at the threshold of everyone
else, and nobody would be told.

Code of the host is called in between and may log, too: the backends, and the loaders that make
them.  So what a run says is the library's own as far as theirs is, and a process goes on being one
in which it is.  That is one judgement on runs (`Run.Speaks`), with a rule for each construct; each
function is then gone through once, construct by construct.
-/

import MediaCodec.Log.Filter
import MediaCodec.Native.Loader
import MediaCodec.Proofs.Parallel

namespace MediaCodec

/-! ## Own targets -/

/-- Whether a target lies under one of the parts of the library. -/
def LogFilter.isOwn (target : String) : Bool :=
  parts.any fun part => coversTarget (some part) target

/-- The library says it itself, by its target. -/
def Event.Own (e : Event) : Prop := LogFilter.isOwn e.target = true

/-- Whatever a backend logs, it logs under own targets. -/
structure Backend.Speaks (b : Backend) : Prop where
  stream : ∀ s past bytes, ∀ e ∈ (b.stream s past bytes).events, e.Own
  firstFrame : ∀ past bytes, ∀ e ∈ (b.firstFrame past bytes).events, e.Own
  getSize : ∀ past bytes, ∀ e ∈ (b.getSize past bytes).events, e.Own
  release : ∀ e ∈ b.release.events, e.Own

/-- Whatever a loader logs, it logs under own targets, and so do the backends that it makes. -/
structure Loader.Speaks (l : Loader) : Prop where
  load : ∀ past path, ∀ e ∈ (l.load past path).events, e.Own
  made : ∀ past path b, (l.load past path).result = .ok b → b.Speaks

/-- The loader and the backends that a process holds log under own targets. -/
structure State.Speaks (p : State) : Prop where
  loader : p.machine.loader.Speaks
  cell : ∀ d, p.cell.stored = some (.ok d) → d.handle.backend.Speaks
  slot : ∀ s, p.slot = some s → s.handle.backend.Speaks

theorem State.speaks_fresh {machine : Machine} (h : machine.loader.Speaks) (env : Environment) :
    (fresh machine env).Speaks :=
  ⟨h, fun _ hd => absurd hd (Option.some_ne_none _).symm,
    fun _ hs => absurd hs (Option.some_ne_none _).symm⟩

/-! ## The judgement and its rules -/

/-- In a process that speaks under own targets, a run says nothing else, and leaves such a process;
and what it answers with has a property. -/
structure Ran.Speaks (A : α → Prop) (r : Ran ε α) : Prop where
  said : ∀ e ∈ r.journal.events, e.Own
  after : r.after.Speaks
  answer : ∀ a, r.result = .ok a → A a

def Run.Speaks (A : α → Prop) (r : Run ε α) : Prop := ∀ p : State, p.Speaks → (r p).Speaks A

theorem Ran.Speaks.silent {A : α → Prop} {r : Ran ε α} (said : r.journal.events = [])
    (after : r.after.Speaks) (answer : ∀ a, r.result = .ok a → A a) : r.Speaks A := by
  refine ⟨?_, after, answer⟩
  rw [said]
  exact fun e he => absurd he List.not_mem_nil

namespace Run.Speaks

variable {A : α → Prop} {B : β → Prop}

theorem pure {a : α} (h : A a) : (Pure.pure a : Run ε α).Speaks A := by
  refine fun p hp => .silent rfl hp fun b hb => ?_
  obtain rfl := Attempt.ok.inj hb
  exact h

theorem fail (e : ε) : (Run.fail e : Run ε α).Speaks A :=
  fun _ hp => .silent rfl hp fun _ ha => absurd ha.symm Attempt.ok_ne_error

theorem panic : (Run.panic : Run ε α).Speaks A :=
  fun _ hp => .silent rfl hp fun _ ha => absurd ha Attempt.panic_ne_ok

theorem get_bind {f : State → Run ε β} (hf : ∀ p : State, p.Speaks → (f p).Speaks B) :
    (Run.get >>= f).Speaks B := by
  intro p hp
  rw [get_bind_apply]
  exact hf p hp p hp

theorem modify {f : State → State} (hf : ∀ p : State, p.Speaks → (f p).Speaks) :
    (Run.modify f : Run ε Unit).Speaks fun _ => True :=
  fun p hp => .silent rfl (hf p hp) fun _ _ => trivial

theorem events {es : List Event} (h : ∀ e ∈ es, e.Own) :
    (Run.events es : Run ε Unit).Speaks fun _ => True := by
  intro p hp
  refine ⟨?_, hp, fun _ _ => trivial⟩
  rw [events_apply, Journal.events_map_event]
  exact h

theorem event {e : Event} (h : e.Own) : (Run.event e : Run ε Unit).Speaks fun _ => True := by
  intro p hp
  refine ⟨?_, hp, fun _ _ => trivial⟩
  intro f hf
  obtain rfl := List.mem_singleton.mp hf
  exact h

theorem say {target : String} (h : LogFilter.isOwn target = true) {level : LogLevel}
    {message : String} {fields : LogFields} :
    (Run.event (.say target level message fields) : Run ε Unit).Speaks fun _ => True :=
  event h

theorem enter (s : InvocationState) : (Run.enter s : Run ε Unit).Speaks fun _ => True :=
  fun _ hp => .silent rfl hp fun _ _ => trivial

theorem call (c : Call) : (Run.call c : Run ε Unit).Speaks fun _ => True :=
  fun _ hp => .silent rfl ⟨hp.loader, hp.cell, hp.slot⟩ fun _ _ => trivial

theorem bind {r : Run ε α} {f : α → Run ε β} (hr : r.Speaks A) (hf : ∀ a, A a → (f a).Speaks B) :
    (r >>= f).Speaks B := by
  intro p hp
  obtain ⟨hsaid, hafter, hanswer⟩ := hr p hp
  cases h : (r p).result with
  | error e =>
      rw [bind_of_error h]
      exact ⟨hsaid, hafter, fun _ hb => absurd hb.symm Attempt.ok_ne_error⟩
  | panic =>
      rw [bind_of_panic h]
      exact ⟨hsaid, hafter, fun _ hb => absurd hb Attempt.panic_ne_ok⟩
  | ok a =>
      obtain ⟨hsaid', hafter', hanswer'⟩ := hf a (hanswer a h) _ hafter
      rw [bind_of_ok h]
      refine ⟨?_, hafter', hanswer'⟩
      intro e he
      rw [Ran.journal_prepend, Journal.events_append] at he
      rcases List.mem_append.mp he with he | he
      · exact hsaid e he
      · exact hsaid' e he

/-- A rule for what does not look at the answer before it. -/
theorem seq {r : Run ε α} {f : α → Run ε β} (hr : r.Speaks fun _ => True)
    (hf : ∀ a, (f a).Speaks B) : (r >>= f).Speaks B :=
  hr.bind fun a _ => hf a

theorem mapError {r : Run ε α} (f : ε → δ) (hr : r.Speaks A) : (Run.mapError f r).Speaks A := by
  intro p hp
  obtain ⟨hsaid, hafter, hanswer⟩ := hr p hp
  refine ⟨hsaid, hafter, ?_⟩
  intro a ha
  rw [mapError_apply] at ha
  cases h : (r p).result with
  | ok b =>
      rw [h] at ha
      obtain rfl := Attempt.ok.inj ha
      exact hanswer _ h
  | error e =>
      rw [h] at ha
      cases ha
  | panic =>
      rw [h] at ha
      cases ha

theorem attempt {r : Run ε α} (hr : r.Speaks A) :
    (Run.attempt r : Run δ _).Speaks fun _ => True := by
  intro p hp
  obtain ⟨hsaid, hafter, -⟩ := hr p hp
  exact ⟨hsaid, hafter, fun _ _ => trivial⟩

/-- Spans are added to what is said, and its targets stay. -/
theorem within {r : Run ε α} (s : Span) (hr : r.Speaks A) : (Run.within s r).Speaks A := by
  intro p hp
  obtain ⟨hsaid, hafter, hanswer⟩ := hr p hp
  refine ⟨?_, hafter, hanswer⟩
  intro e he
  rw [within_apply, Journal.events_within] at he
  obtain ⟨f, hf, rfl⟩ := List.mem_map.mp he
  exact hsaid f hf

theorem onNewThread {r : Run ε α} (hr : r.Speaks A) : (Run.onNewThread r).Speaks A := by
  intro p hp
  obtain ⟨hsaid, hafter, hanswer⟩ := hr { p with threads := p.threads + 1 }
    ⟨hp.loader, hp.cell, hp.slot⟩
  rw [onNewThread_apply]
  refine ⟨?_, hafter, hanswer⟩
  intro e he
  rw [Journal.events_onThread] at he
  obtain ⟨f, hf, rfl⟩ := List.mem_map.mp he
  exact hsaid f hf

theorem branch {c : Prop} [Decidable c] {r r' : Run ε α} (hr : r.Speaks A) (hr' : r'.Speaks A) :
    (if c then r else r').Speaks A := by
  split
  · exact hr
  · exact hr'

theorem ofExcept {r : Except ε α} (h : ∀ a, r = .ok a → A a) : (Run.ofExcept r).Speaks A := by
  cases r with
  | ok a => exact pure (h a rfl)
  | error e => exact fail e

end Run.Speaks

/-! ## Dispatchers -/

namespace Dispatcher

open Run.Speaks

theorem isOwn_dispatchTarget : LogFilter.isOwn dispatchTarget = true := by decide

theorem speaks_start (op : Operation) : (start op).Speaks fun _ => True :=
  (enter .idle).seq fun _ => pure trivial

theorem speaks_advance (i : Invocation) (next : InvocationState) :
    (advance i next).Speaks fun _ => True := by
  unfold advance
  cases i.advance next with
  | ok j => exact (enter next).seq fun _ => pure trivial
  | error t => exact fail _

theorem speaks_failWith (i : Invocation) (e : CodecError) :
    (failWith i e : Run CodecError α).Speaks fun _ => True := by
  unfold failWith
  cases i.advance .failed with
  | ok j => exact (enter .failed).seq fun _ => fail e
  | error t => exact (say isOwn_dispatchTarget).seq fun _ => fail e

theorem speaks_begin (d : Dispatcher) (i : Invocation) (input : MediaBuffer) :
    (d.begin i input).Speaks fun _ => True := by
  refine (speaks_advance i .validating).seq fun i => ?_
  cases input.fault? d.options.maxInputBytes with
  | some f => exact (say isOwn_dispatchTarget).seq fun _ => speaks_failWith i _
  | none =>
      exact get_bind fun p _ => branch (speaks_failWith i _) (speaks_advance i .dispatched)

theorem speaks_finish (ending : Ending) : (finish ending).Speaks fun _ => True := by
  cases ending with
  | status code => exact pure trivial
  | panic => exact panic

theorem speaks_collect {op : Operation} {answer : List Call → Bytes → Emission}
    (h : ∀ past bytes, ∀ e ∈ (answer past bytes).events, e.Own) (input : MediaBuffer) :
    (collect op answer input).Speaks fun _ => True := by
  refine get_bind fun p _ => ?_
  refine (call _).seq fun _ => ?_
  refine (events (h p.past input.data.toBytes)).seq fun _ => ?_
  exact (speaks_finish _).seq fun code => pure trivial

theorem speaks_collected (i : Invocation) (c : ChunkCollector) :
    (collected i c).Speaks fun _ => True :=
  branch (pure trivial) (speaks_advance i .collectingChunks)

theorem speaks_backendFailure (d : Dispatcher) (i : Invocation) (code : Status)
    (c : ChunkCollector) : (d.backendFailure i code c : Run CodecError α).Speaks fun _ => True :=
  (say isOwn_dispatchTarget).seq fun _ => speaks_failWith i _

theorem speaks_soleFrame (i : Invocation) (frames : List Bytes) :
    (soleFrame i frames).Speaks fun _ => True := by
  rcases frames with _ | ⟨frame, _ | ⟨second, rest⟩⟩
  · exact (say isOwn_dispatchTarget).seq fun _ => speaks_failWith i _
  · refine (speaks_advance i .completed).seq fun _ => ?_
    exact (say isOwn_dispatchTarget).seq fun _ => pure trivial
  · exact (say isOwn_dispatchTarget).seq fun _ => speaks_failWith i _

theorem speaks_invoke (d : Dispatcher) (op : Operation) (input : MediaBuffer)
    {body : Invocation → Run CodecError α} (h : ∀ i, (body i).Speaks fun _ => True) :
    (d.invoke op input body).Speaks fun _ => True := by
  refine within _ ((speaks_start op).seq fun i => ?_)
  exact (speaks_begin d i input).seq h

end Dispatcher

/-- A call of a dispatcher says what its backend says, and else speaks for itself. -/
theorem Dispatch.speaks_perform {d : Dispatcher} (h : d.handle.backend.Speaks) (c : Dispatch)
    (input : MediaBuffer) : (c.perform d input).Speaks fun _ => True := by
  open Dispatcher Run.Speaks in
  cases c with
  | chunks op =>
      refine speaks_invoke d op input fun i => ?_
      cases op.streaming? with
      | none => exact speaks_failWith i _
      | some s =>
          refine (speaks_collect (h.stream s) input).seq fun out => ?_
          refine (speaks_collected i _).seq fun i => branch (speaks_backendFailure d i _ _) ?_
          refine (speaks_advance i .completed).seq fun _ => ?_
          exact (say isOwn_dispatchTarget).seq fun _ => pure trivial
  | frame =>
      refine speaks_invoke d .videoFirstFrame input fun i => ?_
      refine (speaks_collect h.firstFrame input).seq fun out => ?_
      refine (speaks_collected i _).seq fun i => ?_
      exact branch (speaks_backendFailure d i _ _) (speaks_soleFrame i _)
  | size =>
      refine speaks_invoke d .videoGetSize input fun i => ?_
      refine get_bind fun p _ => ?_
      refine (call _).seq fun _ => ?_
      refine (events (h.getSize p.past input.data.toBytes)).seq fun _ => ?_
      refine (speaks_finish _).seq fun code => branch (speaks_backendFailure d i _ _) ?_
      refine (speaks_advance i .completed).seq fun _ => ?_
      exact (say isOwn_dispatchTarget).seq fun _ => pure trivial

/-! ## Services and handles -/

theorem Service.isOwn_serviceTarget : LogFilter.isOwn serviceTarget = true := by decide

theorem Service.speaks_recovered (input : Buffer) (r : Attempt ServiceError Bytes) :
    (recovered input r).Speaks fun _ => True := by
  cases r with
  | ok data => exact .pure trivial
  | panic => exact .panic
  | error e =>
      rw [recovered]
      cases e.reported? with
      | some code => exact (Run.Speaks.say isOwn_serviceTarget).seq fun _ => .pure trivial
      | none => exact .fail e

theorem Run.Speaks.congruence :
    Run.Congruence (@fun _ r _ => Run.Speaks (fun _ => True) r) where
  pure _ := .pure trivial
  event _ h := .event (congrArg LogFilter.isOwn h)
  bind hr hf := hr.seq hf
  within s hr := hr.within s
  recovered input hr := hr.attempt.seq fun r => Service.speaks_recovered input r

theorem Run.Speaks.background {r : Run ServiceError α} (hr : r.Speaks fun _ => True) :
    (Service.background r).Speaks fun _ => True := by
  refine hr.onNewThread.attempt.seq fun a => ?_
  cases a with
  | ok a => exact pure trivial
  | error e => exact fail _
  | panic => exact fail _

namespace Handle

open Run.Speaks

theorem isOwn_platformTarget : LogFilter.isOwn platformTarget = true := by decide

theorem isOwn_backendTarget : LogFilter.isOwn backendTarget = true := by decide

theorem speaks_close {h : Handle} (hb : h.backend.Speaks) :
    (h.close : Run ε Bool).Speaks fun _ => True := by
  refine get_bind fun p _ => branch (pure trivial) ?_
  refine (modify (f := fun q => { q with closed := h.id :: q.closed }) ?_).seq fun _ => ?_
  · exact fun q hq => ⟨hq.loader, hq.cell, hq.slot⟩
  · refine (call _).seq fun _ => (events hb.release).seq fun _ => ?_
    exact (say isOwn_backendTarget).seq fun _ => pure trivial

theorem speaks_create {b : Backend} (hb : b.Speaks) (artifact : Option Artifact) :
    (create artifact b : Run ε Handle).Speaks fun h => h.backend.Speaks := by
  refine get_bind fun p _ => ?_
  refine (modify (f := fun q => { q with opened := q.opened + 1 }) ?_).seq fun _ => pure hb
  exact fun q hq => ⟨hq.loader, hq.cell, hq.slot⟩

theorem speaks_load {l : Loader} (hl : l.Speaks) (a : Artifact) :
    (load a l).Speaks fun h => h.backend.Speaks := by
  refine get_bind fun p _ => (call _).seq fun _ => ?_
  refine (events (hl.load p.past a.path)).seq fun _ => ?_
  cases hb : (l.load p.past a.path).result with
  | error e => exact (say isOwn_backendTarget).seq fun _ => fail _
  | ok b => exact (say isOwn_backendTarget).seq fun _ => speaks_create (hl.made _ _ b hb) _

theorem speaks_ofConfig {c : Config} (hl : c.loader.Speaks) :
    (ofConfig c).Speaks fun h => h.backend.Speaks := by
  have hresolve : c.host.resolve.Speaks fun _ => True := by
    unfold Host.resolve
    cases Platform.resolve? c.host.os c.host.arch with
    | none => exact fail _
    | some id => exact (say isOwn_platformTarget).seq fun _ => pure trivial
  refine hresolve.seq fun id => get_bind fun p _ => ?_
  cases c.settings.artifact p.machine.cwd id with
  | error f => exact fail _
  | ok a => exact speaks_load hl a

end Handle

theorem Use.speaks_perform {h : Handle} (hb : h.backend.Speaks) (u : Use) :
    (u.perform h).Speaks fun _ => True := by
  have huse := Run.Speaks.congruence.use Run.Speaks.background (h := h) (f := id) (g := id)
    (fun c o input => (c.speaks_perform (d := ⟨h, o⟩) hb input).mapError _)
    (Handle.speaks_close hb) u
  rw [u.mapOptions_id] at huse
  exact huse

/-! ## What a process shares -/

theorem Dispatcher.speaks_ofConfig {config : Except SetupError Config}
    (h : ∀ c, config = .ok c → c.loader.Speaks) :
    (ofConfig config).Speaks fun d => d.handle.backend.Speaks := by
  cases config with
  | error e => exact .fail _
  | ok c => exact (Handle.speaks_ofConfig (h c rfl)).bind fun handle hb => .pure hb

namespace Service

theorem loader_of_build {s : Settings} {host : Host} {l : Loader} {c : Config}
    (h : Builder.build { settings := s } host l = .ok c) : c.loader = l := by
  rw [Builder.build] at h
  cases hs : s.check with
  | error e =>
      rw [hs] at h
      cases h
  | ok s' =>
      rw [hs] at h
      obtain rfl := Except.ok.inj h
      rfl

theorem loader_of_environmentConfig {p : State} {c : Config} (h : environmentConfig p = .ok c) :
    c.loader = p.machine.loader := by
  cases hs : Settings.ofEnvironment p.environment with
  | error e =>
      rw [environmentConfig, hs] at h
      cases h
  | ok s =>
      rw [environmentConfig, hs] at h
      exact loader_of_build h

theorem speaks_globalWith {config : State → Except SetupError Config}
    (h : ∀ p : State, p.Speaks → ∀ c, config p = .ok c → c.loader.Speaks) :
    (globalWith config).Speaks fun s => s.handle.backend.Speaks := by
  intro p hp
  obtain ⟨hsaid, hafter, hanswer⟩ := Dispatcher.speaks_ofConfig (h p hp) p hp
  -- A filled cell is only read.  An empty one takes what comes of opening, unless it is a panic.
  cases hcell : p.cell.stored with
  | some r =>
      rw [globalWith_of_stored hcell]
      refine .silent rfl hp fun s hs => ?_
      cases r with
      | ok d =>
          obtain rfl := Attempt.ok.inj hs
          exact hp.cell d hcell
      | error e => cases hs
  | none =>
      rw [globalWith_of_empty hcell]
      refine ⟨hsaid, ⟨hafter.loader, fun d hd => ?_, hafter.slot⟩, fun s hs => ?_⟩
      · exact hanswer d (Attempt.returned?_eq_some_iff.mp hd)
      · obtain ⟨d, hd, rfl⟩ := Attempt.map_eq_ok_iff.mp hs
        exact hanswer d (Attempt.mapError_eq_ok_iff.mp hd)

theorem speaks_global : global.Speaks fun s => s.handle.backend.Speaks := by
  refine speaks_globalWith fun p hp c hc => ?_
  rw [loader_of_environmentConfig hc]
  exact hp.loader

theorem speaks_initGlobal {c : Config} (hl : c.loader.Speaks) :
    (initGlobal c).Speaks fun s => s.handle.backend.Speaks := by
  have hglobal : (globalWith fun _ => .ok c).Speaks fun s => s.handle.backend.Speaks :=
    speaks_globalWith fun p hp c' hc => Except.ok.inj hc ▸ hl
  refine Run.Speaks.get_bind fun p _ => ?_
  exact Run.Speaks.branch ((Run.Speaks.say isOwn_serviceTarget).seq fun _ => hglobal) hglobal

end Service

/-! ## The C boundary -/

namespace Boundary

open Run.Speaks

variable {A : α → Prop}

theorem isOwn_boundaryTarget : LogFilter.isOwn boundaryTarget = true := by decide

theorem speaks_fill {s : Service} (hs : s.handle.backend.Speaks) :
    (Run.modify (fun p => { p with slot := some s }) : Run ε Unit).Speaks fun _ => True := by
  refine modify fun p hp => ⟨hp.loader, hp.cell, ?_⟩
  intro s' hs'
  obtain rfl := Option.some.inj hs'
  exact hs

theorem speaks_install {s : Service} (hs : s.handle.backend.Speaks) :
    (install s : Run ε Bool).Speaks fun _ => True := by
  refine get_bind fun p _ => ?_
  cases p.slot with
  | some old => exact pure trivial
  | none => exact (speaks_fill hs).seq fun _ => pure trivial

theorem speaks_service : service.Speaks fun s => s.handle.backend.Speaks := by
  refine get_bind fun p hp => ?_
  cases hslot : p.slot with
  | some s => exact pure (hp.slot s hslot)
  | none =>
      refine Run.Speaks.bind Service.speaks_global fun s hs => ?_
      exact (speaks_fill hs).seq fun _ => pure hs

theorem speaks_guarded {operation : String} {call : Run ServiceError α} (h : call.Speaks A) :
    (guarded operation call : Run ε (Status × Option α)).Speaks fun _ => True := by
  refine h.attempt.seq fun r => ?_
  cases r with
  | ok a => exact pure trivial
  | error e => exact (say isOwn_boundaryTarget).seq fun _ => pure trivial
  | panic => exact (say isOwn_boundaryTarget).seq fun _ => pure trivial

theorem speaks_openShared (dir : Option Path) : (openShared dir).Speaks fun _ => True := by
  refine get_bind fun p hp => ?_
  cases p.slot with
  | some s => exact pure trivial
  | none =>
      refine (ofExcept (A := fun _ => True) fun _ _ => trivial).seq fun s => ?_
      refine (ofExcept (A := fun c => c.loader.Speaks) fun c hc => ?_).bind fun c hl => ?_
      · have hbuild : Builder.build { settings := s } p.machine.host p.machine.loader = .ok c := by
          generalize Builder.build _ _ _ = built at hc
          cases built with
          | ok c' => exact congrArg Except.ok (Except.ok.inj hc)
          | error e => cases hc
        rw [Service.loader_of_build hbuild]
        exact hp.loader
      · refine (Service.speaks_initGlobal hl).bind fun s hs => ?_
        exact (speaks_install hs).seq fun _ => pure trivial

theorem speaks_start (dir : Option Bytes) : (start dir : Run ε Status).Speaks fun _ => True := by
  have hopen : ∀ d, (guarded "lgc_init" (openShared d) >>= fun out => Pure.pure out.1 :
      Run ε Status).Speaks fun _ => True :=
    fun d => (speaks_guarded (speaks_openShared d)).seq fun _ => pure trivial
  cases dir with
  | none => exact hopen none
  | some b =>
      rw [start]
      cases Text.ofUtf8? b with
      | none => exact .pure trivial
      | some path => exact hopen (some path)

theorem speaks_close : (close : Run ε Status).Speaks fun _ => True := by
  refine get_bind fun p hp => ?_
  cases hslot : p.slot with
  | none => exact pure trivial
  | some s => exact (Handle.speaks_close (hp.slot s hslot)).seq fun _ => pure trivial

/-- A guarded call of the service in use. -/
theorem speaks_guarded_service {operation : String} {body : Service → Run ServiceError α}
    (h : ∀ s : Service, s.handle.backend.Speaks → (body s).Speaks fun _ => True) :
    (guarded operation (service >>= body) : Run ε (Status × Option α)).Speaks fun _ => True :=
  speaks_guarded (Run.Speaks.bind speaks_service h)

end Boundary

theorem CodecCall.speaks_perform (c : CodecCall) :
    (c.perform : Run ε (Status × CallerMemory)).Speaks fun _ => True := by
  open Boundary Run.Speaks in
  have hcall : ∀ {s : Service}, s.handle.backend.Speaks → ∀ (c : Dispatch) input,
      (Run.mapError ServiceError.codec (c.perform s.dispatcher input)).Speaks fun _ => True :=
    fun hs c input => (c.speaks_perform hs input).mapError _
  cases c with
  | stream op input hasCallback =>
      refine Run.Speaks.seq (branch ?_ (pure trivial)) fun _ => pure trivial
      refine (speaks_guarded_service fun s hs => within _ (hcall hs (.chunks _) _)).seq ?_
      rintro ⟨status, _ | chunks⟩
      · exact pure trivial
      · exact pure trivial
  | firstFrame input slots =>
      refine Run.Speaks.seq ?_ fun _ => pure trivial
      rcases slots with ⟨_ | pointer, _ | size⟩
      · exact pure trivial
      · exact pure trivial
      · exact pure trivial
      · refine (speaks_guarded_service fun s hs => ?_).seq ?_
        · exact (within _ (hcall hs .frame _)).seq fun b => branch (pure trivial) (fail _)
        · rintro ⟨status, _ | b⟩
          · exact pure trivial
          · exact pure trivial
  | getSize input record =>
      refine Run.Speaks.seq ?_ fun _ => pure trivial
      cases record with
      | none => exact pure trivial
      | some old =>
          refine (speaks_guarded_service fun s hs => ?_).seq fun out => pure trivial
          exact within _ (hcall hs .size _)

/-! ## Steps -/

/-- The code of the host that a step brings along speaks under own targets. -/
def Step.Speaks : Step → Prop
  | .initGlobal c => c.loader.Speaks
  | .install s => s.handle.backend.Speaks
  | .use h _ => h.backend.Speaks
  | .global | .init _ | .close | .codec _ | .setVariable _ _ => True

/-- Each part of the library that logs in a step is among those that the filter names. -/
theorem Step.speaks_perform {k : Step} (hk : k.Speaks) : k.perform.Speaks fun _ => True := by
  have hreply : ∀ {α : Type} {A : α → Prop} {r : Run ServiceError α} {f : α → Reply},
      r.Speaks A → (r >>= fun a => pure (f a)).Speaks fun _ => True :=
    fun hr => hr.bind fun _ _ => .pure trivial
  cases k with
  | global => exact hreply Service.speaks_global
  | initGlobal c => exact hreply (Service.speaks_initGlobal hk)
  | install s => exact hreply (Boundary.speaks_install hk)
  | init dir => exact hreply (Boundary.speaks_start dir)
  | close => exact hreply Boundary.speaks_close
  | codec c =>
      rw [perform_codec]
      exact hreply c.speaks_perform
  | use h u => exact hreply (u.speaks_perform hk)
  | setVariable name value =>
      refine hreply (Run.Speaks.modify (f := fun p => { p with
        environment := p.environment.set name value }) ?_)
      exact fun p hp => ⟨hp.loader, hp.cell, hp.slot⟩

/-! ## Native libraries -/

namespace NativeLibrary

theorem isOwn_nativeTarget : LogFilter.isOwn nativeTarget = true := by decide

theorem own_nil : ∀ e ∈ ([] : List Event), e.Own := fun _ he => absurd he List.not_mem_nil

theorem own_say {level : LogLevel} {message : String} {fields : LogFields} :
    ∀ e ∈ [Event.say nativeTarget level message fields], e.Own := by
  intro e he
  obtain rfl := List.mem_singleton.mp he
  exact isOwn_nativeTarget

theorem speaks_backend (l : NativeLibrary) : l.backend.Speaks where
  stream op past bytes := by
    unfold backend
    dsimp only
    split
    · exact own_nil
    · exact own_nil
  firstFrame past bytes := by
    unfold backend frameEmission
    dsimp only
    split
    · exact own_nil
    · dsimp only
      split
      · exact own_say
      · exact own_nil
  getSize past bytes := by
    unfold backend
    dsimp only
    split
    · exact own_nil
    · exact own_nil
  release := own_say

theorem own_of_link (path : Path) (image : Image) : ∀ e ∈ (link path image).1, e.Own := by
  cases image with
  | refused reason => exact own_nil
  | library symbols reason =>
      rw [link]
      cases symbols.resolve with
      | error op => exact own_say
      | ok exports => exact own_say

/-- The loader for the files of a machine speaks for the library. -/
theorem speaks_loader (files : FileSystem) : (loader files).Speaks where
  load past path := by
    show ∀ e ∈ (load files path).1, e.Own
    rw [load]
    cases files path with
    | file image => exact own_of_link path image
    | absent | directory => exact own_nil
  made past path b h := by
    have hmade : (load files path).2.map backend = .ok b := h
    cases hload : (load files path).2 with
    | error e =>
        rw [hload] at hmade
        cases hmade
    | ok l =>
        rw [hload] at hmade
        obtain rfl := Except.ok.inj hmade
        exact l.speaks_backend

end NativeLibrary

end MediaCodec
