/-
Policies — what becomes of partial results, and what does not depend on it.

A policy can come into a process in many places: in the options of a dispatcher, in a configuration,
in the environment, in what the process already shares.  `under` replaces it in all of them, in the
steps of a run and in the state that the run starts from.  A policy that is no policy is left alone,
for such settings are refused either way.

The policy is read where the backend has failed, and nowhere else, and what depends on it there are
the chunks inside the error.  Others look at errors, too: a voice message goes on after some of
them, and the entry points for C callers make statuses of them.  But none of them looks at those
chunks.  So a step and its version under another policy run in parallel, from a process and its
version, and errors are equal once they are stripped of their chunks (`Step.parallel_under`).
-/

import MediaCodec.Proofs.Causes
import MediaCodec.Proofs.Parallel

namespace MediaCodec

/-! ## The same under another policy -/

/-- The name of a policy in place of a value, unless the value is the name of none. -/
def PartialResults.valueUnder (π : PartialResults) (value : Option Bytes) : Option Bytes :=
  match value.bind Text.ofUtf8? with
  | none => some (Text.toUtf8 π.name)
  | some text =>
    match parse text with
    | .ok _ => some (Text.toUtf8 π.name)
    | .error _ => value

section Under

variable (π : PartialResults)

def Settings.under (s : Settings) : Settings := { s with partialResults := π }

def Config.under (c : Config) : Config := { c with settings := c.settings.under π }

def DispatchOptions.under (o : DispatchOptions) : DispatchOptions := { o with partialResults := π }

def Dispatcher.under (d : Dispatcher) : Dispatcher := { d with options := d.options.under π }

def Service.under (s : Service) : Service := ⟨s.dispatcher.under π⟩

def Environment.under (env : Environment) : Environment := fun name =>
  if name = Settings.partialResultsVariable then π.valueUnder (env name) else env name

def State.under (p : State) : State :=
  { p with
    environment := p.environment.under π
    cell := ⟨p.cell.stored.map (Except.map (Dispatcher.under π))⟩
    slot := p.slot.map (Service.under π) }

def Step.under : Step → Step
  | initGlobal c => initGlobal (c.under π)
  | install s => install (s.under π)
  | use h u => use h (u.mapOptions (DispatchOptions.under π))
  | setVariable name value =>
    setVariable name (if name = Settings.partialResultsVariable then π.valueUnder value else value)
  | global => global
  | init dir => init dir
  | close => close
  | codec c => codec c

/-- A reply can name a service, which has a policy. -/
def Reply.under : Reply → Reply
  | service s => service (s.under π)
  | installed free => installed free
  | status s => status s
  | codec s m => codec s m
  | answer a => answer a
  | done => done

end Under

/-! ### The last policy counts -/

theorem PartialResults.parse_name (π : PartialResults) : parse π.name = .ok π := by
  cases π <;> rfl

theorem Text.ofUtf8?_toUtf8 (s : String) : ofUtf8? (toUtf8 s) = some s := by
  have hbytes : (⟨(toUtf8 s).toArray⟩ : ByteArray) = s.toUTF8 := by simp [toUtf8]
  rw [ofUtf8?, hbytes, String.fromUTF8?]
  exact dif_pos s.isValidUTF8

namespace PartialResults

variable (π ρ : PartialResults)

theorem valueUnder_valueUnder (value : Option Bytes) :
    π.valueUnder (ρ.valueUnder value) = π.valueUnder value := by
  cases htext : value.bind Text.ofUtf8? with
  | none => simp only [valueUnder, htext, Option.bind_some, Text.ofUtf8?_toUtf8, parse_name]
  | some text =>
      cases hparse : parse text with
      | ok σ =>
          simp only [valueUnder, htext, hparse, Option.bind_some, Text.ofUtf8?_toUtf8, parse_name]
      | error e => simp only [valueUnder, htext, hparse]

end PartialResults

section Twice

variable {π ρ : PartialResults}

theorem Environment.under_under (env : Environment) : (env.under ρ).under π = env.under π := by
  funext name
  by_cases hname : name = Settings.partialResultsVariable
  · simp only [under, if_pos hname, PartialResults.valueUnder_valueUnder]
  · simp only [under, if_neg hname]

theorem State.under_under (p : State) : (p.under ρ).under π = p.under π := by
  have hcell : (p.cell.stored.map (Except.map (Dispatcher.under ρ))).map
      (Except.map (Dispatcher.under π)) = p.cell.stored.map (Except.map (Dispatcher.under π)) := by
    rw [Option.map_map]
    congr 1
    funext r
    cases r <;> rfl
  have hslot : (p.slot.map (Service.under ρ)).map (Service.under π) =
      p.slot.map (Service.under π) := by
    rw [Option.map_map]
    rfl
  simp only [under, Environment.under_under, hcell, hslot]

theorem Step.under_under (k : Step) : (k.under ρ).under π = k.under π := by
  cases k with
  | setVariable name value =>
      by_cases hname : name = Settings.partialResultsVariable
      · simp only [under, if_pos hname, PartialResults.valueUnder_valueUnder]
      · simp only [under, if_neg hname]
  | use h u => cases u <;> rfl
  | global | initGlobal c | install s | init dir | close | codec c => rfl

end Twice

/-! ## Settings under a policy -/

namespace Environment

variable (env : Environment) (π : PartialResults)

theorem text?_under_of_ne (name : String) (h : name ≠ Settings.partialResultsVariable) :
    (env.under π).text? name = env.text? name := by
  rw [text?, text?, under, if_neg h]

theorem set_under (name : String) (value : Option Bytes) :
    (env.set name value).under π =
      (env.under π).set name
        (if name = Settings.partialResultsVariable then π.valueUnder value else value) := by
  funext n
  by_cases hn : n = name
  · subst hn
    simp only [under, set, if_true]
  · simp only [under, set, if_neg hn]

end Environment

namespace Settings

variable (π : PartialResults)

theorem check_under (s : Settings) : (s.under π).check = s.check.map (under π) := by
  have hfault : (s.under π).fault? = s.fault? := rfl
  rw [check, check, hfault]
  cases s.fault? <;> rfl

/-- The policy that a variable names; the codec's own where there is no variable. -/
def policyOf (value : Option String) : Except SetupError PartialResults :=
  match value with
  | none => .ok .discard
  | some text => PartialResults.parse text

/-- The limit that a variable names. -/
def limitOf (value : Option String) : Except SetupError (Option UInt64) :=
  match value with
  | none => .ok none
  | some text => (parseLimit text).map some

/-- What the variables say, with a policy and a limit that were read before. -/
def gathered (lookup : String → Option String) (π : PartialResults) (limit : Option UInt64) :
    Settings where
  libraryDir := (nonEmpty (lookup libraryDirVariable)).getD ({} : Settings).libraryDir
  libraryPath := nonEmpty (lookup libraryPathVariable)
  partialResults := π
  maxInputBytes := limit

theorem ofLookup_eq (lookup : String → Option String) :
    ofLookup lookup = policyOf (lookup partialResultsVariable) >>= fun π =>
      limitOf (lookup maxInputBytesVariable) >>= fun limit => (gathered lookup π limit).check := by
  unfold ofLookup policyOf limitOf
  cases lookup partialResultsVariable <;> cases lookup maxInputBytesVariable <;> rfl

theorem policyOf_under (env : Environment) :
    policyOf ((env.under π).text? partialResultsVariable) =
      (policyOf (env.text? partialResultsVariable)).map fun _ => π := by
  have htext : (env.under π).text? partialResultsVariable =
      (π.valueUnder (env partialResultsVariable)).bind Text.ofUtf8? := by
    rw [Environment.text?, Environment.under, if_pos rfl]
  have hname : policyOf ((some (Text.toUtf8 π.name)).bind Text.ofUtf8?) = .ok π := by
    rw [Option.bind_some, Text.ofUtf8?_toUtf8]
    exact π.parse_name
  rw [htext, Environment.text?, PartialResults.valueUnder]
  cases hvalue : (env partialResultsVariable).bind Text.ofUtf8? with
  | none => exact hname
  | some text =>
      dsimp only
      cases hparse : PartialResults.parse text with
      | ok ρ =>
          rw [hname, policyOf, hparse]
          rfl
      | error e =>
          rw [hvalue, policyOf, hparse]
          rfl

theorem ofEnvironment_under (env : Environment) :
    ofEnvironment (env.under π) = (ofEnvironment env).map (under π) := by
  have hgathered : ∀ limit ρ, gathered (env.under π).text? π limit =
      (gathered env.text? ρ limit).under π := by
    intro limit ρ
    unfold gathered
    rw [env.text?_under_of_ne π libraryDirVariable (by decide),
      env.text?_under_of_ne π libraryPathVariable (by decide)]
    rfl
  rw [ofEnvironment, ofEnvironment, ofLookup_eq, ofLookup_eq, policyOf_under,
    env.text?_under_of_ne π maxInputBytesVariable (by decide)]
  cases policyOf (env.text? partialResultsVariable) with
  | error e => rfl
  | ok ρ =>
      cases limitOf (env.text? maxInputBytesVariable) with
      | error e => rfl
      | ok limit =>
          show (gathered (env.under π).text? π limit).check =
            (gathered env.text? ρ limit).check.map (under π)
          rw [hgathered limit ρ, check_under]

end Settings

/-! ## What a process shares under a policy -/

section Shared

variable {π : PartialResults}

theorem Builder.build_under (s : Settings) (host : Host) (loader : Loader) :
    build { settings := s.under π } host loader =
      (build { settings := s } host loader).map (Config.under π) := by
  show (s.under π).check.map _ = (s.check.map _).map _
  rw [Settings.check_under]
  cases s.check <;> rfl

theorem Service.environmentConfig_under (p : State) :
    environmentConfig (p.under π) = (environmentConfig p).map (Config.under π) := by
  show Settings.ofEnvironment (p.environment.under π) >>= _ =
    (Settings.ofEnvironment p.environment >>= _).map _
  rw [Settings.ofEnvironment_under]
  cases Settings.ofEnvironment p.environment with
  | error e => rfl
  | ok s => exact Builder.build_under s p.machine.host p.machine.loader

theorem Boundary.configUnder_under (p : State) (dir : Option Path) :
    configUnder (p.under π) dir = (configUnder p dir).map (Config.under π) := by
  have hsettings : settings (p.under π) dir = (settings p dir).map (Settings.under π) := by
    show (Settings.ofEnvironment (p.environment.under π)).map _ = _
    rw [Settings.ofEnvironment_under, settings]
    cases Settings.ofEnvironment p.environment <;> rfl
  cases hs : settings p dir with
  | error e =>
      rw [hs] at hsettings
      rw [configUnder_of_error hs, configUnder_of_error hsettings]
      rfl
  | ok s =>
      rw [hs] at hsettings
      rw [configUnder_of_ok hs, configUnder_of_ok hsettings]
      exact Builder.build_under s p.machine.host p.machine.loader

variable (config : Except SetupError Config) (p : State)

theorem Dispatcher.outcome_under :
    outcome (config.map (Config.under π)) (p.under π) =
      (outcome config p).map (Dispatcher.under π) := by
  cases config with
  | error e => rfl
  | ok c =>
      show (c.outcome p).map _ = ((c.outcome p).map _).map _
      cases c.outcome p <;> rfl

theorem Dispatcher.loads_under :
    loads (config.map (Config.under π)) (p.under π) = loads config p := by
  cases config <;> rfl

theorem Dispatcher.handles_under :
    handles (config.map (Config.under π)) (p.under π) = handles config p := by
  cases config <;> rfl

theorem Service.ofShared_under (r : Except CodecError Dispatcher) :
    ofShared (r.map (Dispatcher.under π)) = (ofShared r).map (Service.under π) := by
  cases r <;> rfl

namespace State

theorem stored_under (p : State) :
    (p.under π).cell.stored = p.cell.stored.map (Except.map (Dispatcher.under π)) := rfl

theorem shared_under :
    (p.under π).shared (config.map (Config.under π)) =
      (p.shared config).map (Dispatcher.under π) := by
  rw [shared, shared, stored_under]
  cases p.cell.stored with
  | some r => rfl
  | none => exact Dispatcher.outcome_under config p

theorem sharing_under :
    (p.under π).sharing (config.map (Config.under π)) = (p.sharing config).under π := by
  rw [sharing, sharing, stored_under]
  cases p.cell.stored with
  | some r => rfl
  | none =>
      dsimp only [Option.map_none]
      rw [Dispatcher.outcome_under, Dispatcher.loads_under, Dispatcher.handles_under]
      rfl

theorem sharingLoads_under :
    (p.under π).sharingLoads (config.map (Config.under π)) = p.sharingLoads config := by
  rw [sharingLoads, sharingLoads, stored_under]
  cases p.cell.stored with
  | some r => rfl
  | none => exact Dispatcher.loads_under config p

theorem filling_under :
    (p.under π).filling (config.map (Config.under π)) = (p.filling config).under π := by
  rw [filling, filling, sharing_under, shared_under, Service.ofShared_under]
  have hslot : ((Service.ofShared (p.shared config)).map (Service.under π)).toOption =
      (Service.ofShared (p.shared config)).toOption.map (Service.under π) := by
    cases Service.ofShared (p.shared config) <;> rfl
  rw [hslot]
  rfl

theorem slot_under_of_none {p : State} (h : p.slot = none) : (p.under π).slot = none := by
  show p.slot.map _ = none
  rw [h]
  rfl

theorem slot_under_of_some {p : State} {s : Service} (h : p.slot = some s) :
    (p.under π).slot = some (s.under π) := by
  show p.slot.map _ = _
  rw [h]
  rfl

theorem served_under : (p.under π).served = p.served.map (Service.under π) := by
  cases hslot : p.slot with
  | some s => rw [served_of_some hslot, served_of_some (slot_under_of_some hslot)]; rfl
  | none =>
      rw [served_of_none hslot, served_of_none (slot_under_of_none hslot),
        Service.environmentConfig_under, shared_under, Service.ofShared_under]

theorem serving_under : (p.under π).serving = p.serving.under π := by
  cases hslot : p.slot with
  | some s => rw [serving_of_some hslot, serving_of_some (slot_under_of_some hslot)]
  | none =>
      rw [serving_of_none hslot, serving_of_none (slot_under_of_none hslot),
        Service.environmentConfig_under, filling_under]

theorem servingLoads_under : (p.under π).servingLoads = p.servingLoads := by
  cases hslot : p.slot with
  | some s => rw [servingLoads_of_some hslot, servingLoads_of_some (slot_under_of_some hslot)]
  | none =>
      rw [servingLoads_of_none hslot, servingLoads_of_none (slot_under_of_none hslot),
        Service.environmentConfig_under, sharingLoads_under]

theorem honest_under {p : State} (h : p.Honest) : (p.under π).Honest := by
  intro e he
  have hstored : p.cell.stored.map (Except.map (Dispatcher.under π)) = some (.error e) := he
  obtain ⟨r, hr, hmap⟩ := Option.map_eq_some_iff.mp hstored
  cases r with
  | ok d => cases hmap
  | error f =>
      obtain rfl := Except.error.inj hmap
      exact h f hr

end State

end Shared

/-! ## Errors without their chunks -/

/-- The error without the chunks that it carries. -/
def CodecError.bare : CodecError → CodecError
  | backend op code _ => backend op code []
  | e => e

/-- The error without the chunks of a codec error inside it. -/
def ServiceError.bare : ServiceError → ServiceError
  | codec e => codec e.bare
  | e => e

/-- The errors are equal but for the chunks that they carry. -/
def CodecError.SameButChunks (e f : CodecError) : Prop := e.bare = f.bare

def ServiceError.SameButChunks (e f : ServiceError) : Prop := e.bare = f.bare

theorem CodecError.SameButChunks.refl (e : CodecError) : e.SameButChunks e := rfl

namespace ServiceError

theorem reported?_bare (e : ServiceError) : e.bare.reported? = e.reported? := by
  cases e with
  | codec c => cases c <;> rfl
  | setup c => rfl
  | task => rfl

theorem status_bare (e : ServiceError) : e.bare.status = e.status := by
  cases e with
  | codec c => cases c <;> rfl
  | setup c => rfl
  | task => rfl

variable {e f : ServiceError}

theorem SameButChunks.refl (e : ServiceError) : e.SameButChunks e := rfl

theorem SameButChunks.reported?_eq (h : e.SameButChunks f) : e.reported? = f.reported? := by
  rw [← reported?_bare e, h, reported?_bare f]

/-- An error that the codec did not report carries no chunks. -/
theorem SameButChunks.eq_of_unreported (h : e.SameButChunks f) (hreported : e.reported? = none) :
    e = f := by
  have hbare : ∀ g : ServiceError, g.reported? = none → g.bare = g := by
    intro g hg
    cases g with
    | codec c =>
        cases c with
        | backend op code kept => cases hg
        | _ => rfl
    | setup c => rfl
    | task => rfl
  rw [← hbare e hreported, h, hbare f (h.reported?_eq ▸ hreported)]

theorem SameButChunks.status_eq (h : e.SameButChunks f) : e.status = f.status := by
  rw [← status_bare e, h, status_bare f]

end ServiceError

/-! ## Runs under a policy -/

/-- The second process is the first one under a policy. -/
def State.IsUnder (π : PartialResults) (p q : State) : Prop := q = p.under π

section Parallel

open ServiceError (SameButChunks)

variable {π : PartialResults}

theorem State.IsUnder.steady : State.Steady (IsUnder π) where
  past h := by rw [h]; rfl
  called c h := by rw [h]; rfl
  threaded h := by rw [h]; rfl

theorem State.IsUnder.hasClosed_eq {p q : State} (h : p.IsUnder π q) (k : Handle) :
    q.hasClosed k = p.hasClosed k := by
  rw [h]
  rfl

/-- What is made of an answer depends on the policy in the chunks of an error only. -/
theorem Dispatch.matches_under (c : Dispatch) (h : Handle) (o : DispatchOptions) :
    c.Matches CodecError.SameButChunks Eq ⟨h, o⟩ ⟨h, o.under π⟩ where
  unanswered _ _ hnone := hnone
  answered past bytes a ha := by
    refine ⟨a, ha, rfl, fun code _ => ?_⟩
    by_cases hok : code = Status.ok
    · rw [concluded, concluded, if_pos hok, if_pos hok]
      exact .refl CodecError.SameButChunks.refl (fun _ => rfl) _
    · rw [concluded, concluded, if_neg hok, if_neg hok]
      exact .error rfl

theorem Dispatch.parallel_under (c : Dispatch) (h : Handle) (o : DispatchOptions)
    (input : MediaBuffer) :
    Run.Parallel (State.IsUnder π) SameButChunks Eq (Run.mapError .codec (c.perform ⟨h, o⟩ input))
      (Run.mapError .codec (c.perform ⟨h, o.under π⟩ input)) := by
  refine .mapError (fun _ _ he => congrArg ServiceError.codec he) ?_
  refine parallel_perform State.IsUnder.steady CodecError.SameButChunks.refl ?_
    (fun _ _ hpq => hpq.hasClosed_eq h) (c.matches_under h o)
  rfl

theorem Handle.parallel_close (h : Handle) :
    Run.Parallel (State.IsUnder π) SameButChunks Eq h.close h.close := by
  rintro p q hpq
  have hflag := hpq.hasClosed_eq h
  cases hclosed : p.hasClosed h with
  | true =>
      rw [hclosed] at hflag
      rw [close_of_closed hclosed, close_of_closed hflag]
      exact ⟨.ok rfl, rfl, hpq⟩
  | false =>
      rw [hclosed] at hflag
      refine (close_of_open hclosed).parallel (close_of_open hflag) (.ok rfl) ?_
      rw [hpq]
      rfl

theorem Use.parallel_under (u : Use) (h : Handle) :
    Run.Parallel (State.IsUnder π) SameButChunks Eq (u.perform h)
      ((u.mapOptions (DispatchOptions.under π)).perform h) := by
  have hP := Run.Parallel.congruence (S := State.IsUnder π) fun _ _ he =>
    SameButChunks.reported?_eq he
  have huse := hP.use (.background State.IsUnder.steady SameButChunks.refl) (f := id)
    (fun c o input => c.parallel_under h o input) h.parallel_close u
  rw [u.mapOptions_id] at huse
  exact huse

/-! ### What the process shares -/

theorem Attempt.Parallel.ofExcept {r : Except ServiceError α} (f : α → α) :
    (Attempt.ofExcept r).Parallel SameButChunks (fun a b => b = f a) (.ofExcept (r.map f)) := by
  cases r with
  | ok a => exact .ok rfl
  | error e => exact .error rfl

theorem Service.parallel_global :
    Run.Parallel (State.IsUnder π) SameButChunks (fun s t => t = s.under π) global global := by
  rintro p q rfl
  have h := global_comesTo (p.under π)
  rw [environmentConfig_under, State.shared_under, State.sharing_under, State.sharingLoads_under,
    ofShared_under] at h
  exact (global_comesTo p).parallel h (.ofExcept _) rfl

theorem Service.parallel_initGlobal (c : Config) :
    Run.Parallel (State.IsUnder π) SameButChunks (fun s t => t = s.under π) (initGlobal c)
      (initGlobal (c.under π)) := by
  rintro p q rfl
  have h := initGlobal_comesTo (c.under π) (p.under π)
  have hconfig : Except.ok (c.under π) = (Except.ok c : Except SetupError Config).map _ := rfl
  rw [hconfig, State.shared_under, State.sharing_under, State.sharingLoads_under,
    ofShared_under] at h
  exact (initGlobal_comesTo c p).parallel h (.ofExcept _) rfl

theorem Boundary.parallel_install (s : Service) :
    Run.Parallel (State.IsUnder π) SameButChunks Eq (install s) (install (s.under π)) := by
  rintro p q rfl
  cases hslot : p.slot with
  | some old =>
      rw [install_of_some s hslot, install_of_some (s.under π) (State.slot_under_of_some hslot)]
      exact ⟨.ok rfl, rfl, rfl⟩
  | none =>
      rw [install_of_none s hslot, install_of_none (s.under π) (State.slot_under_of_none hslot)]
      exact ⟨.ok rfl, rfl, rfl⟩

theorem Boundary.parallel_service :
    Run.Parallel (State.IsUnder π) SameButChunks (fun s t => t = s.under π) service service := by
  rintro p q rfl
  have h := service_comesTo (p.under π)
  rw [State.served_under, State.serving_under, State.servingLoads_under] at h
  exact (service_comesTo p).parallel h (.ofExcept _) rfl

theorem Boundary.parallel_openShared (dir : Option Path) :
    Run.Parallel (State.IsUnder π) SameButChunks Eq (openShared dir) (openShared dir) := by
  rintro p q rfl
  cases hslot : p.slot with
  | some s =>
      rw [openShared_of_some hslot, openShared_of_some (State.slot_under_of_some hslot)]
      exact ⟨.ok rfl, rfl, rfl⟩
  | none =>
      have hslot' := State.slot_under_of_none (π := π) hslot
      have hconfig' := configUnder_under (π := π) p dir
      cases hconfig : configUnder p dir with
      | error e =>
          rw [hconfig] at hconfig'
          rw [openShared_of_error hslot hconfig, openShared_of_error hslot' hconfig']
          exact ⟨.error rfl, rfl, rfl⟩
      | ok c =>
          rw [hconfig] at hconfig'
          have h := openShared_of_ok hslot' hconfig'
          have hok : Except.ok (c.under π) = (Except.ok c : Except SetupError Config).map _ := rfl
          rw [hok, State.shared_under, State.filling_under, State.sharingLoads_under,
            Service.ofShared_under] at h
          refine (openShared_of_ok hslot hconfig).parallel h ?_ rfl
          cases Service.ofShared (p.shared (.ok c)) with
          | ok s => exact .ok rfl
          | error e => exact .error rfl

/-! ### What C callers see -/

/-- A status does not show the chunks of an error. -/
theorem Status.ofAttempt_eq {A : α → α → Prop} {r r' : Attempt ServiceError α}
    (h : r.Parallel SameButChunks A r') : ofAttempt r' = ofAttempt r := by
  cases h with
  | ok related => rfl
  | error related => exact related.status_eq.symm
  | panic => rfl

theorem Boundary.parallel_start (dir : Option Bytes) :
    Run.Parallel (State.IsUnder π) SameButChunks Eq (start dir) (start dir) := by
  intro p q hpq
  cases hdir : directory dir with
  | none =>
      rw [start_of_refused hdir, start_of_refused hdir]
      exact ⟨.ok rfl, rfl, hpq⟩
  | some d =>
      obtain ⟨hresult, hcalls, hafter⟩ := parallel_openShared d p q hpq
      have h : ((start dir : Run ServiceError Status) q).ComesTo _ _ _ := start_comesTo hdir
      rw [hcalls, Status.ofAttempt_eq hresult] at h
      exact (start_comesTo hdir).parallel h (.ok rfl) hafter

theorem Boundary.parallel_close :
    Run.Parallel (State.IsUnder π) SameButChunks Eq close close := by
  rintro p q rfl
  rw [close, Run.get_bind_apply, Run.get_bind_apply]
  cases hslot : p.slot with
  | none =>
      rw [State.slot_under_of_none hslot]
      exact ⟨.ok rfl, rfl, rfl⟩
  | some s =>
      rw [State.slot_under_of_some hslot]
      have hclose := s.handle.parallel_close (π := π)
      exact hclose.map (fun _ _ _ => rfl) p (p.under π) rfl

namespace CodecCall

theorem parallel_method (s : Service) (c : CodecCall) :
    Run.Parallel (State.IsUnder π) SameButChunks Eq (c.method s) (c.method (s.under π)) := by
  have hcall := fun (d : Dispatch) input =>
    d.parallel_under (π := π) s.handle s.dispatcher.options input
  cases c with
  | stream op input hasCallback =>
      exact (hcall (.chunks op.operation) (.ofBuffer input.slice)).within _
  | getSize input record => exact (hcall .size (.ofBuffer input.slice)).within _
  | firstFrame input slots =>
      have hframe := (hcall .frame (.ofBuffer input.slice)).within
        (Service.span Operation.videoFirstFrame.symbol input.slice)
      refine hframe.bind fun b b' hb => ?_
      rw [hb]
      split
      · exact .pure rfl
      · exact .fail rfl

theorem parallel_served (c : CodecCall) :
    Run.Parallel (State.IsUnder π) SameButChunks Eq c.served c.served := by
  refine Boundary.parallel_service.bind fun s t hst => ?_
  rw [hst]
  exact parallel_method s c

theorem memory_eq (c : CodecCall) {r r' : Attempt ServiceError c.Output}
    (h : r.Parallel SameButChunks Eq r') : c.memory r' = c.memory r := by
  cases h with
  | ok related => rw [related]
  | error related => rfl
  | panic => rfl

/-- The status, the caller's memory and the deliveries are the same under every policy. -/
theorem parallel_perform (c : CodecCall) :
    Run.Parallel (State.IsUnder π) SameButChunks Eq c.perform c.perform := by
  intro p q hpq
  cases hlacks : c.lacksPointer with
  | true =>
      rw [perform_of_lacksPointer hlacks, perform_of_lacksPointer hlacks]
      exact ⟨.ok rfl, rfl, hpq⟩
  | false =>
      obtain ⟨hresult, hcalls, hafter⟩ := c.parallel_served p q hpq
      have h : ((c.perform : Run ServiceError _) q).ComesTo _ _ _ := perform_comesTo hlacks q
      rw [hcalls, Status.ofAttempt_eq hresult, c.memory_eq hresult] at h
      exact (perform_comesTo hlacks p).parallel h (.ok rfl) hafter

end CodecCall

/-- Every step and its version under a policy run in parallel: the same calls, and the same reply,
but for the policy of a service and the chunks of an error. -/
theorem Step.parallel_under (k : Step) :
    Run.Parallel (State.IsUnder π) SameButChunks (fun r s => s = r.under π) k.perform
      (k.under π).perform := by
  cases k with
  | global => exact Service.parallel_global.map fun _ _ h => congrArg Reply.service h
  | initGlobal c =>
      exact (Service.parallel_initGlobal c).map fun _ _ h => congrArg Reply.service h
  | install s =>
      exact (Boundary.parallel_install s).map fun _ _ h => congrArg Reply.installed h.symm
  | init dir => exact (Boundary.parallel_start dir).map fun _ _ h => congrArg Reply.status h.symm
  | close => exact Boundary.parallel_close.map fun _ _ h => congrArg Reply.status h.symm
  | codec c =>
      refine c.parallel_perform.map fun _ _ h => ?_
      rw [h]
      rfl
  | use h u => exact (u.parallel_under h).map fun _ _ h => congrArg Reply.answer h.symm
  | setVariable name value =>
      rintro p q rfl
      refine ⟨.ok rfl, rfl, ?_⟩
      have henvironment := p.environment.set_under π name value
      exact (congrArg (fun env => { p.under π with environment := env }) henvironment).symm

end Parallel

end MediaCodec
