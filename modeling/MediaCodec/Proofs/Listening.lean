/-
Listening — what a level and a floor keep from the host, and what they cannot touch.

A process installs its logging, and then things happen in it.  Each event is put before the filter
where it happens, and what passes goes to the sink of the host.  Under the filter that a level
stands for there are two kinds of targets.  Those under a part of the library are heard from the
level on.  All others are heard from warnings on, whatever the level is
(`LogFilter.apply_standard`).

So a level or a floor never changes what a session does, and of the entries it only drops some
(`LoggingConfig.thins_session`).  An own entry is heard if its level reaches both the level and the
floor; another one that everything let through would show is heard if it reaches the floor.  Where
none but the library speaks, level and floor count alike, and the higher of them decides.

That spans have levels too, and may be missing from an entry, is why entries are compared without
them unless the level is the same.
-/

import MediaCodec.Logging
import MediaCodec.Proofs.Speaking

namespace MediaCodec

/-! ## Levels -/

namespace LogLevel

/-- The graver of two levels. -/
def max (a b : LogLevel) : LogLevel := if a.atLeast b then a else b

theorem atLeast_max (l a b : LogLevel) : l.atLeast (a.max b) = (l.atLeast a && l.atLeast b) := by
  cases a <;> cases b <;> cases l <;> rfl

theorem atLeast_trace (l : LogLevel) : l.atLeast .trace = true := by
  cases l <;> rfl

end LogLevel

/-! ## The filter of a level -/

namespace LogFilter

/-- The level from which on a target is heard under the filter of a level. -/
def audible (level : LogLevel) (target : String) : LogLevel :=
  if isOwn target then level else .warn

/-- The first two of some rules meet, and the winner goes on. -/
theorem decision_cons_cons (b r : TargetRule) (rest : List TargetRule) :
    decision (b :: r :: rest) = decision ((if b.yieldsTo r then r else b) :: rest) := by
  have hfold : TargetRule.mostSpecific (b :: r :: rest) =
      TargetRule.mostSpecific ((if b.yieldsTo r then r else b) :: rest) := by
    rw [TargetRule.mostSpecific, TargetRule.mostSpecific, List.foldl_cons, List.foldl_cons,
      List.foldl_cons]
    dsimp only
    split
    · rfl
    · rfl
  rw [decision, hfold, decision]

/-- Where all rules agree, it does not matter which of them wins. -/
theorem decision_of_agreeing {r : TargetRule} {rest : List TargetRule} {t : Threshold}
    (hr : r.threshold = t) (hrest : ∀ s ∈ rest, s.threshold = t) : decision (r :: rest) = t := by
  -- The rule at the head is the winner so far, and may be any rule of this threshold.
  induction rest generalizing r with
  | nil => exact hr
  | cons s rest ih =>
      have hs := hrest s List.mem_cons_self
      have htail := fun s hs => hrest s (List.mem_cons_of_mem _ hs)
      rw [decision_cons_cons]
      split
      · exact ih hs htail
      · exact ih hr htail

/-- A rule for everything gives way to a rule for a part. -/
theorem decision_of_reach {base r : TargetRule} (hbase : base.reach = 0) (hr : 0 < r.reach)
    (rest : List TargetRule) : decision (base :: r :: rest) = decision (r :: rest) := by
  have hyields : base.yieldsTo r = true := by
    unfold TargetRule.yieldsTo
    rw [if_pos (by omega), hbase]
    exact decide_eq_true hr
  rw [decision_cons_cons, if_pos hyields]

/-- The rules that an event meets: the one for everything, and those for its parts. -/
theorem filter_rules_standard (level : LogLevel) (e : Event) :
    (standard level).rules.filter (fun r => r.metByEvent e) =
      ⟨none, [], .atLeast .warn⟩ ::
        (parts.filter fun part => coversTarget (some part) e.target).map fun part =>
          ⟨some part, [], .atLeast level⟩ := by
  have hmet : ∀ part, TargetRule.metByEvent ⟨some part, [], .atLeast level⟩ e =
      coversTarget (some part) e.target := fun part => Bool.and_true _
  unfold standard
  rw [List.filter_cons_of_pos rfl, List.filter_map]
  congr 3
  funext part
  exact hmet part

theorem decision_standard (level : LogLevel) (e : Event) :
    decision ((standard level).rules.filter fun r => r.metByEvent e) =
      .atLeast (audible level e.target) := by
  rw [filter_rules_standard, audible, isOwn]
  cases hmet : parts.filter fun part => coversTarget (some part) e.target with
  | nil =>
      have hown : (parts.any fun part => coversTarget (some part) e.target) = false :=
        List.any_eq_false.mpr (List.filter_eq_nil_iff.mp hmet)
      rw [hown]
      rfl
  | cons part rest =>
      have hpart : part ∈ parts.filter fun part => coversTarget (some part) e.target := by
        rw [hmet]
        exact List.mem_cons_self
      have hown : (parts.any fun part => coversTarget (some part) e.target) = true :=
        List.any_eq_true.mpr ⟨part, (List.mem_filter.mp hpart).1, (List.mem_filter.mp hpart).2⟩
      have hreach : 0 < TargetRule.reach ⟨some part, [], .atLeast level⟩ := Nat.succ_pos _
      rw [hown, if_pos rfl, List.map_cons, decision_of_reach rfl hreach]
      refine decision_of_agreeing rfl fun s hs => ?_
      obtain ⟨part', -, rfl⟩ := List.mem_map.mp hs
      rfl

theorem opening?_of_openers_nil {f : LogFilter} (h : f.openers = []) (s : Span) :
    f.opening? s = none := by
  rw [opening?, h]
  rfl

/-- Without directives about spans nothing is opened inside of one. -/
theorem enter_of_openers_nil {f : LogFilter} (h : f.openers = []) (spans : List Span) :
    (f.enter [] spans).1 = [] := by
  induction spans with
  | nil => rfl
  | cons s rest ih =>
      rw [enter, opening?_of_openers_nil h, ite_self]
      dsimp only
      split
      · exact ih
      · exact ih

/-- What the filter of a level leaves of an event that passes: of its spans only some. -/
def seen (level : LogLevel) (e : Event) : Event :=
  { e with spans := ((standard level).enter [] e.spans).2 }

/-- Under the filter of a level an event passes if its target is heard at its level. -/
theorem pass?_standard (level : LogLevel) (e : Event) :
    (standard level).pass? e =
      if e.level.atLeast (audible level e.target) then some (seen level e) else none := by
  have hopened := enter_of_openers_nil (f := standard level) rfl e.spans
  have hdecision := decision_standard level e
  rw [pass?, seen]
  generalize (standard level).enter [] e.spans = entered at hopened ⊢
  obtain ⟨opened, spans⟩ := entered
  subst hopened
  rw [hdecision]
  rfl

theorem apply_standard (level : LogLevel) (es : List Event) :
    (standard level).apply es =
      (es.filter fun e => e.level.atLeast (audible level e.target)).map (seen level) := by
  rw [apply]
  induction es with
  | nil => rfl
  | cons e rest ih =>
      have hpass := pass?_standard level e
      rw [List.filter_cons]
      split
      · next haudible =>
        rw [if_pos haudible] at hpass
        rw [List.filterMap_cons_some hpass, List.map_cons, ih]
      · next haudible =>
        rw [if_neg haudible] at hpass
        rw [List.filterMap_cons_none hpass, ih]

end LogFilter

/-! ## Records -/

namespace LogRecord

/-- A record without the span that it was made in: its level, its target, its message and its
fields. -/
def withoutSpan (r : LogRecord) : LogRecord := { r with span := none }

/-- Whether a record that is shown when everything is let through is also heard under a level and a
floor. -/
def reaches (level floor : LogLevel) (r : LogRecord) : Bool :=
  r.level.atLeast floor && (!LogFilter.isOwn r.target || r.level.atLeast level)

theorem reaches_of_own {level floor : LogLevel} {r : LogRecord}
    (h : LogFilter.isOwn r.target = true) :
    r.reaches level floor = r.level.atLeast (level.max floor) := by
  rw [reaches, h, LogLevel.atLeast_max, Bool.not_true, Bool.false_or, Bool.and_comm]

end LogRecord

/-- A configuration with the filter of a level, and a sink. -/
def LoggingConfig.listening (c : LoggingConfig) (level : LogLevel) (s : LogSink) : LoggingConfig :=
  { c with level, filter := none, sink := some s }

namespace Logging

/-- The logging that such a configuration installs. -/
def ofLevel (c : LoggingConfig) (level : LogLevel) (s : LogSink) : Logging :=
  ⟨c.listening level s, .standard level⟩

/-- Whether an event is heard. -/
def hears (level floor : LogLevel) (e : Event) : Bool :=
  e.level.atLeast (LogFilter.audible level e.target) && e.level.atLeast floor

section

variable {c c' : LoggingConfig} {level : LogLevel} {s s' : LogSink}

/-- The sink gets what passes the filter and reaches its floor, whether it fails or not. -/
theorem records_report (es : List Event) :
    ((ofLevel c level s).report es).records =
      (((LogFilter.standard level).apply es).filter fun e => e.level.atLeast s.floor).map
        .ofEvent := by
  show (((LogFilter.standard level).apply es).flatMap fun e => (s.receive e).records) = _
  generalize (LogFilter.standard level).apply es = es
  induction es with
  | nil => rfl
  | cons e rest ih =>
      rw [List.flatMap_cons, ih, LogSink.receive, List.filter_cons]
      split
      · rfl
      · rfl

/-- Without their spans, the records are those of the events that are heard. -/
theorem withoutSpan_report (es : List Event) :
    ((ofLevel c level s).report es).records.map LogRecord.withoutSpan =
      (es.filter (hears level s.floor)).map fun e => (LogRecord.ofEvent e).withoutSpan := by
  rw [records_report, LogFilter.apply_standard, List.filter_map, List.filter_filter, List.map_map,
    List.map_map]
  congr 2
  funext e
  exact Bool.and_comm _ _

end

end Logging

/-! ## Sessions -/

/-- One thing that happens in a process that somebody listens to. -/
inductive Act
  | step (k : Step)
  | openHandle (c : Config)
  | inject (b : Backend)
  /-- Somebody else in the process logs. -/
  | say (es : List Event)

/-- What an act answers with. -/
inductive Act.Answer
  | reply (r : Reply)
  | handle (h : Handle)
  | done

namespace Act

def perform : Act → Run ServiceError Answer
  | step k => do
    return .reply (← k.perform)
  | openHandle c => do
    return .handle (← Run.mapError .codec (Handle.ofConfig c))
  | inject b => do
    return .handle (← Handle.inject b)
  | say es => do
    Run.events es
    return .done

/-- Whoever logs in an act besides the library speaks under a target of the library. -/
def Speaks : Act → Prop
  | step k => k.Speaks
  | openHandle c => c.loader.Speaks
  | inject b => b.Speaks
  | say es => ∀ e ∈ es, e.Own

theorem speaks_perform {a : Act} (ha : a.Speaks) : a.perform.Speaks fun _ => True := by
  cases a with
  | step k => exact (Step.speaks_perform ha).seq fun _ => .pure trivial
  | openHandle c => exact ((Handle.speaks_ofConfig ha).mapError _).bind fun _ _ => .pure trivial
  | inject b => exact (Handle.speaks_create ha none).bind fun _ _ => .pure trivial
  | say es => exact (Run.Speaks.events ha).seq fun _ => .pure trivial

end Act

/-- What was said in a history. -/
def History.events (es : History κ ε α) : List Event := es.flatMap fun e => e.ran.journal.events

theorem History.own_of_mem_events {acts : List Act} {p : State} (hp : p.Speaks)
    (hacts : ∀ a ∈ acts, a.Speaks) : ∀ e ∈ events (run Act.perform acts p), e.Own := by
  induction acts generalizing p with
  | nil => exact fun _ he => absurd he List.not_mem_nil
  | cons a rest ih =>
      obtain ⟨hsaid, hafter, -⟩ := Act.speaks_perform (hacts a List.mem_cons_self) p hp
      intro e he
      rw [run, events, List.flatMap_cons] at he
      rcases List.mem_append.mp he with he | he
      · exact hsaid e he
      · exact ih hafter (fun b hb => hacts b (List.mem_cons_of_mem _ hb)) e he

/-- An act as it went, and what the sink of the host was told of it. -/
structure Overheard where
  episode : Episode Act ServiceError Act.Answer
  report : SinkReport

/-- What went on while somebody listened, the earliest first. -/
abbrev Session := List Overheard

namespace Session

def history (es : Session) : History Act ServiceError Act.Answer := es.map Overheard.episode

/-- Everything that the sink of the host was told. -/
def records (es : Session) : List LogRecord := es.flatMap fun e => e.report.records

/-- A session goes as another one does, in which everything is let through, and of what is heard
there it drops what a level and a floor keep back. -/
structure Thins (level floor : LogLevel) (es all : Session) : Prop where
  history : es.history = all.history
  records : es.records.map LogRecord.withoutSpan =
    (all.records.filter (LogRecord.reaches level floor)).map LogRecord.withoutSpan

end Session

namespace Logging

/-- Acts performed one after another, with every event put before the logging as it happens. -/
def session (l : Logging) : List Act → State → Session
  | [], _ => []
  | a :: rest, p =>
    let ran := a.perform p
    ⟨⟨a, p, ran⟩, l.report ran.journal.events⟩ :: l.session rest ran.after

theorem history_session (l : Logging) (acts : List Act) (p : State) :
    (l.session acts p).history = .run Act.perform acts p := by
  induction acts generalizing p with
  | nil => rfl
  | cons a rest ih => exact congrArg (_ :: ·) (ih _)

theorem records_append (l : Logging) (es fs : List Event) :
    (l.report (es ++ fs)).records = (l.report es).records ++ (l.report fs).records := by
  rw [report, report, report]
  cases l.config.sink with
  | none => rfl
  | some s =>
      show ((l.filter.apply (es ++ fs)).flatMap _) = _
      rw [LogFilter.apply, List.filterMap_append, List.flatMap_append]
      rfl

theorem records_session (l : Logging) (acts : List Act) (p : State) :
    (l.session acts p).records = (l.report (History.events (.run Act.perform acts p))).records := by
  induction acts generalizing p with
  | nil =>
      show [] = (l.report []).records
      rw [report]
      cases l.config.sink with
      | none => rfl
      | some s => rfl
  | cons a rest ih =>
      rw [History.run, History.events, List.flatMap_cons, records_append]
      exact congrArg (_ ++ ·) (ih _)

section

variable {c c' : LoggingConfig} {level : LogLevel} {s s' : LogSink} {failure : Option HostError}
  {acts : List Act} {p : State}

theorem thins_ofLevel : ((ofLevel c level s).session acts p).Thins level s.floor
    ((ofLevel c' .trace ⟨.trace, failure⟩).session acts p) := by
  refine ⟨?_, ?_⟩
  · rw [history_session, history_session]
  · have hswap : ∀ rs : List LogRecord,
        (rs.filter (LogRecord.reaches level s.floor)).map LogRecord.withoutSpan =
          (rs.map LogRecord.withoutSpan).filter (LogRecord.reaches level s.floor) := by
      intro rs
      rw [List.filter_map]
      rfl
    rw [hswap, records_session, records_session, withoutSpan_report, withoutSpan_report,
      List.filter_map, List.filter_filter]
    congr 2
    -- It remains to compare, event by event, what is heard with what is not kept back.
    funext e
    show (_ && _) = ((_ && (!LogFilter.isOwn e.target || _)) && (_ && e.level.atLeast .trace))
    rw [LogLevel.atLeast_trace, LogFilter.audible, LogFilter.audible, Bool.and_true]
    cases LogFilter.isOwn e.target with
    | true =>
        rw [if_pos rfl, if_pos rfl, LogLevel.atLeast_trace, Bool.and_true, Bool.not_true,
          Bool.false_or]
        exact Bool.and_comm _ _
    | false =>
        rw [if_neg Bool.false_ne_true, if_neg Bool.false_ne_true, Bool.not_false, Bool.true_or,
          Bool.and_true]
        exact Bool.and_comm _ _

/-- Under one level two floors drop records whole, and leave the others with their spans. -/
theorem records_of_floors :
    ((ofLevel c level s).session acts p).records.filter (fun r => r.level.atLeast s'.floor) =
      ((ofLevel c' level s').session acts p).records.filter fun r => r.level.atLeast s.floor := by
  rw [records_session, records_session, records_report, records_report, List.filter_map,
    List.filter_map, List.filter_filter, List.filter_filter]
  congr 2
  funext e
  exact Bool.and_comm _ _

theorem isOwn_of_mem_records (hp : p.Speaks) (hacts : ∀ a ∈ acts, a.Speaks) :
    ∀ r ∈ ((ofLevel c level s).session acts p).records, LogFilter.isOwn r.target = true := by
  intro r hr
  rw [records_session, records_report, LogFilter.apply_standard] at hr
  obtain ⟨e, he, rfl⟩ := List.mem_map.mp hr
  obtain ⟨f, hf, rfl⟩ := List.mem_map.mp (List.mem_filter.mp he).1
  exact History.own_of_mem_events hp hacts f (List.mem_filter.mp hf).1

end

end Logging

namespace LoggingConfig

/-- A session of a process that installs its logging first. -/
def session (c : LoggingConfig) (acts : List Act) (p : State) : Attempt SetupError Session :=
  (c.install false).map fun l => l.session acts p

theorem session_listening (c : LoggingConfig) (level : LogLevel) (s : LogSink) (acts : List Act)
    (p : State) :
    (c.listening level s).session acts p = .ok ((Logging.ofLevel c level s).session acts p) := rfl

/-- Under any two levels and floors, and whether the sinks fail or not, a session goes the same way;
and what is heard is what is heard when everything is let through, but for what the level and the
floor keep back.  The level concerns the library alone.  Where nobody else logs, an entry is heard
just if it reaches both. -/
theorem thins_session (c c' c'' : LoggingConfig) (level level' : LogLevel) (s s' : LogSink)
    (failure : Option HostError) (acts : List Act) (p : State) :
    ∃ es es' all : Session,
      (c.listening level s).session acts p = .ok es ∧
      (c'.listening level' s').session acts p = .ok es' ∧
      (c''.listening .trace ⟨.trace, failure⟩).session acts p = .ok all ∧
      es'.history = es.history ∧ es.Thins level s.floor all ∧ es'.Thins level' s'.floor all ∧
      (level' = level → es.records.filter (fun r => r.level.atLeast s'.floor) =
        es'.records.filter fun r => r.level.atLeast s.floor) ∧
      (p.Speaks → (∀ a ∈ acts, a.Speaks) → es.records.map LogRecord.withoutSpan =
        (all.records.filter fun r => r.level.atLeast (level.max s.floor)).map
          LogRecord.withoutSpan) := by
  have hthins : ((Logging.ofLevel c level s).session acts p).Thins level s.floor
      ((Logging.ofLevel c'' .trace ⟨.trace, failure⟩).session acts p) := Logging.thins_ofLevel
  refine ⟨_, _, _, session_listening c level s acts p, session_listening c' level' s' acts p,
    session_listening c'' .trace ⟨.trace, failure⟩ acts p, ?_, hthins, Logging.thins_ofLevel, ?_,
    ?_⟩
  · rw [Logging.history_session, Logging.history_session]
  · intro hlevel
    rw [hlevel]
    exact Logging.records_of_floors
  · intro hp hacts
    have hown : ∀ r ∈ ((Logging.ofLevel c'' .trace ⟨.trace, failure⟩).session acts p).records,
        LogFilter.isOwn r.target = true := Logging.isOwn_of_mem_records hp hacts
    rw [hthins.records]
    exact congrArg _ (List.filter_congr fun r hr => LogRecord.reaches_of_own (hown r hr))

/-- A process whose codecs come from files, and in which nothing but the library logs. -/
theorem thins_session_native :
    let files : FileSystem := fun _ => .absent
    let p : State := .fresh ⟨"/", ⟨"linux", "x86_64"⟩, NativeLibrary.loader files⟩ .empty
    let acts : List Act := [.step .global, .step (.codec (.getSize ⟨none, 0⟩ (some ⟨0, 0, 0⟩)))]
    LogLevel.warn = .warn ∧ p.Speaks ∧ (∀ a ∈ acts, a.Speaks) ∧
      ∃ es es' all : Session,
        (({} : LoggingConfig).listening .warn {}).session acts p = .ok es ∧
        (({} : LoggingConfig).listening .warn ⟨.error, none⟩).session acts p = .ok es' ∧
        (({} : LoggingConfig).listening .trace ⟨.trace, none⟩).session acts p = .ok all ∧
        es.records.filter (fun r => r.level.atLeast .error) =
          es'.records.filter (fun r => r.level.atLeast .info) ∧
        es.records.map LogRecord.withoutSpan =
          (all.records.filter fun r => r.level.atLeast (LogLevel.max .warn .info)).map
            LogRecord.withoutSpan := by
  intro files p acts
  have hp : p.Speaks := State.speaks_fresh (NativeLibrary.speaks_loader files) .empty
  have hacts : ∀ a ∈ acts, a.Speaks := by
    intro a ha
    rcases List.mem_cons.mp ha with rfl | ha
    · exact trivial
    · obtain rfl := List.mem_singleton.mp ha
      exact trivial
  obtain ⟨es, es', all, hes, hes', hall, -, -, -, hfloors, hown⟩ :=
    thins_session {} {} {} .warn .warn {} ⟨.error, none⟩ none acts p
  exact ⟨rfl, hp, hacts, es, es', all, hes, hes', hall, hfloors rfl, hown hp hacts⟩

/-- The level does not concern others: a warning of somebody else is heard although the level asks
for errors. -/
theorem session_stranger :
    let loader : Loader := ⟨true, fun _ _ => ⟨[], .error (.io "gone")⟩⟩
    let p : State := .fresh ⟨"/", ⟨"linux", "x86_64"⟩, loader⟩ .empty
    let acts : List Act := [.say [.say "other" .warn "plain message" []]]
    ∃ es all : Session,
      (({} : LoggingConfig).listening .error ⟨.trace, none⟩).session acts p = .ok es ∧
      (({} : LoggingConfig).listening .trace ⟨.trace, none⟩).session acts p = .ok all ∧
      es.records.map LogRecord.withoutSpan ≠
        (all.records.filter fun r => r.level.atLeast (LogLevel.max .error .trace)).map
          LogRecord.withoutSpan :=
  ⟨_, _, rfl, rfl, by decide⟩

end LoggingConfig

end MediaCodec
