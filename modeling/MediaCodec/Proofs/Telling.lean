/-
Telling — what the host hears about a call.

What a dispatcher says about a call goes through the filter and to the sink, and is told as a record
with the name of a span.  Under the filter of a level, which has no directives about spans, each
span passes or not on its own (`LogFilter.spans_seen`).  The span of a call passes as soon as debug
messages do, whatever is around it, and the remark is made in no other span inside it.

So where debug messages are heard, the host is told of every call that came to its backend, and
what it is told is what the caller got: how much, if the call succeeded, and how much was lost, if
the backend failed (`Dispatch.told_perform`).
-/

import MediaCodec.Proofs.Listening
import MediaCodec.Proofs.Remarks

namespace MediaCodec

theorem LogLevel.atLeast_trans {a b c : LogLevel} (hab : a.atLeast b = true)
    (hbc : b.atLeast c = true) : a.atLeast c = true := by
  simp only [atLeast, decide_eq_true_eq] at *
  exact Nat.le_trans hbc hab

/-! ## Spans -/

namespace LogFilter

/-- Without directives about spans each span passes or not on its own. -/
theorem spans_enter_of_openers_nil {f : LogFilter} (h : f.openers = []) (spans : List Span) :
    (f.enter [] spans).2 = spans.filter fun s =>
      (decision (f.rules.filter fun r => r.metBySpan s)).allows s.level := by
  induction spans with
  | nil => rfl
  | cons s rest ih =>
      rw [enter, opening?_of_openers_nil h, ite_self, List.filter_cons]
      simp only [passesInside, List.any_nil, Bool.false_or]
      split
      · exact congrArg (s :: ·) ih
      · exact ih

/-- The filter of a level makes no difference between a span and an event of its target. -/
theorem decision_span_standard (level : LogLevel) (s : Span) :
    decision ((standard level).rules.filter fun r => r.metBySpan s) =
      .atLeast (audible level s.target) := by
  have hmet : ∀ r ∈ (standard level).rules,
      r.metBySpan s = r.metByEvent (.say s.target s.level s.name s.fields) := by
    intro r hr
    rcases List.mem_cons.mp hr with rfl | hr
    · exact (Bool.and_true _).symm
    · obtain ⟨part, -, rfl⟩ := List.mem_map.mp hr
      exact (Bool.and_true _).symm
  rw [List.filter_congr hmet]
  exact decision_standard level _

theorem spans_seen (level : LogLevel) (e : Event) :
    (seen level e).spans = e.spans.filter fun s => s.level.atLeast (audible level s.target) := by
  refine (spans_enter_of_openers_nil rfl e.spans).trans (List.filter_congr fun s _ => ?_)
  rw [decision_span_standard]
  rfl

end LogFilter

/-- The event as it happened inside some more spans, the outermost first. -/
def Event.inside (around : List Span) (e : Event) : Event := { e with spans := around ++ e.spans }

theorem Event.inside_within (around : List Span) (s : Span) (e : Event) :
    (e.within s).inside around = e.inside (around ++ [s]) := by
  simp [inside, within]

/-- A run inside some spans, the outermost first. -/
def Run.inside (around : List Span) (r : Run ε α) : Run ε α := around.foldr Run.within r

section Inside

variable (around : List Span) (r : Run ε α) (p : State)

theorem Run.inside_cons (s : Span) : r.inside (s :: around) = .within s (r.inside around) := rfl

theorem Run.result_inside : (r.inside around p).result = (r p).result := by
  induction around with
  | nil => rfl
  | cons s rest ih => exact ih

theorem Run.calls_inside : (r.inside around p).journal.calls = (r p).journal.calls := by
  induction around with
  | nil => rfl
  | cons s rest ih => rw [Run.inside_cons, Run.within_apply, Journal.calls_within, ih]

theorem Run.events_inside :
    (r.inside around p).journal.events = (r p).journal.events.map (Event.inside around) := by
  induction around with
  | nil => exact (List.map_id _).symm
  | cons s rest ih =>
      rw [Run.inside_cons, Run.within_apply, Journal.events_within, ih, List.map_map]
      rfl

end Inside

/-! ## Fields -/

namespace LogRecord

theorem setField_of_notMem {fields : List (String × String)} {name : String}
    (h : name ∉ fields.map Prod.fst) (value : String) :
    setField fields name value = fields ++ [(name, value)] := by
  rw [setField, if_neg]
  simp only [List.any_eq_true, beq_iff_eq, not_exists, not_and]
  rintro f hf rfl
  exact h (List.mem_map_of_mem hf)

theorem foldl_setField (fields done : List (String × String))
    (h : ((done ++ fields).map Prod.fst).Nodup) :
    fields.foldl (fun fs f => setField fs f.1 f.2) done = done ++ fields := by
  induction fields generalizing done with
  | nil => exact (List.append_nil done).symm
  | cons f rest ih =>
      have hnew : f.1 ∉ done.map Prod.fst := by
        rw [List.map_append, List.nodup_append] at h
        intro hf
        exact h.2.2 _ hf _ List.mem_cons_self rfl
      have happend : done ++ f :: rest = done ++ [f] ++ rest := by simp
      rw [happend] at h ⊢
      rw [List.foldl_cons, setField_of_notMem hnew]
      exact ih _ h

/-- Fields with different names are taken as they are. -/
theorem collect_of_nodup {fields : List (String × String)} (h : (fields.map Prod.fst).Nodup) :
    collect fields = fields :=
  foldl_setField fields [] h

end LogRecord

/-! ## What the host is told -/

/-- The record of a call that the backend reported as failed. -/
def Status.failureRecord (code : Status) (emitted kept : Nat) : LogRecord where
  level := .warn
  target := dispatchTarget
  message := "Backend returned an error status"
  fields :=
    [("code", toString code.toInt), ("emitted_chunks", toString emitted),
     ("kept_chunks", toString kept)]
  span := some "codec_invocation"

namespace LogRecord

/-- Whether a record is about the success or the failure of a call. -/
def isRemark (r : LogRecord) : Bool :=
  r.target == dispatchTarget &&
    (r.message == "Invocation completed" || r.message == "Backend returned an error status")

theorem isRemark_of_target {r : LogRecord} (h : r.target ≠ dispatchTarget) :
    r.isRemark = false := by
  rw [isRemark, beq_false_of_ne h, Bool.false_and]

/-- A record is told from those by the first letter of its message. -/
theorem isRemark_of_start {r : LogRecord} {start rest : String} {c : Char}
    (h : r.message = start ++ rest) (hstart : start.toList.head? = some c) (hi : c ≠ 'I')
    (hb : c ≠ 'B') : r.isRemark = false := by
  have hhead : r.message.toList.head? = some c := by
    rw [h, String.toList_append, List.head?_append, hstart]
    rfl
  have hcompleted : r.message ≠ "Invocation completed" := by
    intro hmessage
    rw [hmessage] at hhead
    exact hi (Option.some.inj hhead).symm
  have hfailed : r.message ≠ "Backend returned an error status" := by
    intro hmessage
    rw [hmessage] at hhead
    exact hb (Option.some.inj hhead).symm
  rw [isRemark, beq_false_of_ne hcompleted, beq_false_of_ne hfailed, Bool.or_false, Bool.and_false]

end LogRecord

namespace Dispatch

/-- The record of a call that succeeded. -/
def completion (c : Dispatch) (v : c.Output) : LogRecord where
  level := .debug
  target := dispatchTarget
  message := "Invocation completed"
  fields := (c.measures v).map fun m => (m.1, toString m.2)
  span := some "codec_invocation"

theorem nodup_measures (c : Dispatch) (v : c.Output) : ((c.measures v).map Prod.fst).Nodup := by
  cases c with
  | chunks op =>
      show ["chunks", "bytes"].Nodup
      decide
  | frame =>
      show ["bytes"].Nodup
      decide
  | size =>
      show ["width", "height", "duration_ms"].Nodup
      decide

/-- The records that a result calls for. -/
def entries (c : Dispatch) (emitted : Nat) : Attempt CodecError c.Output → List LogRecord
  | .ok v => [c.completion v]
  | .error (.backend _ code partials) => [code.failureRecord emitted partials.length]
  | _ => []

end Dispatch

namespace Logging

variable {cfg : LoggingConfig} {level : LogLevel} {s : LogSink}

theorem target_of_mem_records {es : List Event} {r : LogRecord}
    (h : r ∈ ((ofLevel cfg level s).report es).records) : ∃ e ∈ es, r.target = e.target := by
  rw [records_report, LogFilter.apply_standard] at h
  obtain ⟨f, hf, rfl⟩ := List.mem_map.mp h
  obtain ⟨e, he, rfl⟩ := List.mem_map.mp (List.mem_filter.mp hf).1
  exact ⟨e, (List.mem_filter.mp he).1, rfl⟩

/-- An event that passes the filter and reaches the floor is told with the spans that pass. -/
theorem records_single {e : Event}
    (hpasses : e.level.atLeast (LogFilter.audible level e.target) = true)
    (hfloor : e.level.atLeast s.floor = true) :
    ((ofLevel cfg level s).report [e]).records = [.ofEvent (LogFilter.seen level e)] := by
  rw [records_report, LogFilter.apply_standard]
  simp [hpasses, hfloor, LogFilter.seen]

section Debug

variable (hlevel : LogLevel.debug.atLeast level = true)
  (hfloor : LogLevel.debug.atLeast s.floor = true)
include hlevel hfloor

/-- What the dispatcher says in the span of a call is told as said in that span. -/
theorem records_said {e : Event} (htarget : e.target = dispatchTarget) (hspans : e.spans = [])
    (hloud : e.level.atLeast .debug = true) (around : List Span) (op : Operation)
    (input : MediaBuffer) :
    ((ofLevel cfg level s).report [e.inside (around ++ [Dispatcher.span op input])]).records =
      [{ LogRecord.ofEvent e with span := some "codec_invocation" }] := by
  have haudible : LogFilter.audible level dispatchTarget = level :=
    if_pos Dispatcher.isOwn_dispatchTarget
  have hpasses : e.level.atLeast (LogFilter.audible level e.target) = true := by
    rw [htarget, haudible]
    exact LogLevel.atLeast_trans hloud hlevel
  -- Of the spans around the call some may be missing, but the last one is its own.
  have hspan : (LogFilter.seen level
      (e.inside (around ++ [Dispatcher.span op input]))).spans.getLast? =
        some (Dispatcher.span op input) := by
    rw [LogFilter.spans_seen, Event.inside, hspans, List.append_nil, List.filter_append]
    simp [Dispatcher.span, haudible, hlevel]
  rw [records_single (e := e.inside _) hpasses (LogLevel.atLeast_trans hloud hfloor),
    LogRecord.ofEvent, hspan]
  rfl

theorem records_completed (c : Dispatch) (v : c.Output) (around : List Span) (op : Operation)
    (input : MediaBuffer) :
    ((ofLevel cfg level s).report
        [(Dispatcher.completed ((c.measures v).map fun m => (m.1, .unsigned m.2))).inside
          (around ++ [Dispatcher.span op input])]).records = [c.completion v] := by
  have hfields : LogRecord.collect ((c.measures v).map fun m => (m.1, toString m.2)) =
      (c.measures v).map fun m => (m.1, toString m.2) := by
    refine LogRecord.collect_of_nodup ?_
    rw [List.map_map]
    exact c.nodup_measures v
  rw [records_said hlevel hfloor rfl rfl rfl, LogRecord.ofEvent, Dispatch.completion, ← hfields,
    Dispatcher.completed, Event.say, List.map_map]
  rfl

theorem records_failed (code : Status) (emitted kept : Nat) (around : List Span) (op : Operation)
    (input : MediaBuffer) :
    ((ofLevel cfg level s).report
        [(Event.say dispatchTarget .warn "Backend returned an error status"
          [("code", .signed code.toInt), ("emitted_chunks", .unsigned emitted),
           ("kept_chunks", .unsigned kept)]).inside
          (around ++ [Dispatcher.span op input])]).records = [code.failureRecord emitted kept] := by
  have hfields : LogRecord.collect [("code", toString code.toInt),
      ("emitted_chunks", toString emitted), ("kept_chunks", toString kept)] =
        [("code", toString code.toInt), ("emitted_chunks", toString emitted),
         ("kept_chunks", toString kept)] := by
    refine LogRecord.collect_of_nodup ?_
    show ["code", "emitted_chunks", "kept_chunks"].Nodup
    decide
  rw [records_said hlevel hfloor rfl rfl rfl, LogRecord.ofEvent, Status.failureRecord, ← hfields]
  rfl

end Debug

end Logging

namespace Dispatch

/-- The host is told the truth about a call.  It has been told `own` of the backend meanwhile, and to
that the dispatcher adds one record, or none. -/
structure Told (l : Logging) (c : Dispatch) (d : Dispatcher) (input : MediaBuffer) (p : State)
    (own : List LogRecord) (r : Ran CodecError c.Output) : Prop where
  completed : ∀ v, r.result = .ok v →
    (l.report r.journal.events).records = own ++ [c.completion v]
  /-- The chunks are counted as the backend handed them over, and as they are in the error. -/
  failed : ∀ op code partials, r.result = .error (.backend op code partials) →
    ∃ a, c.answer? d.handle.backend p.past input.data.toBytes = some a ∧
      a.ending = .status code ∧
      (partials.length = match d.options.partialResults with
        | .discard => 0
        | .preserve => a.chunks.length) ∧
      (l.report r.journal.events).records =
        own ++ [code.failureRecord a.chunks.length partials.length]
  unasked : r.journal.calls = [] →
    ∀ m ∈ (l.report r.journal.events).records, m.isRemark = false
  /-- If the backend does not speak as the dispatcher, then there are no other such records. -/
  alone : (∀ e ∈ c.meanwhile d.handle.backend p.past input.data.toBytes,
      e.target ≠ dispatchTarget) →
    ∀ a, c.answer? d.handle.backend p.past input.data.toBytes = some a →
      (l.report r.journal.events).records.filter LogRecord.isRemark =
        c.entries a.chunks.length r.result

section Told

variable {cfg : LoggingConfig} {level : LogLevel} {s : LogSink} {c : Dispatch} {d : Dispatcher}
  {input : MediaBuffer} {p : State} {around : List Span} {a : Answer}

/-- What the host is told of the backend while a call inside some spans asks it. -/
def aside (l : Logging) (around : List Span) (c : Dispatch) (d : Dispatcher)
    (input : MediaBuffer) (p : State) : List LogRecord :=
  (l.report ((c.meanwhile d.handle.backend p.past input.data.toBytes).map
    (Event.inside (around ++ [Dispatcher.span c.operation input])))).records

theorem records_perform (hadmits : d.Admits input p)
    (h : c.answer? d.handle.backend p.past input.data.toBytes = some a) (l : Logging) :
    (l.report ((c.perform d input).inside around p).journal.events).records =
      c.aside l around d input p ++
        (l.report ((c.remarks a.chunks.length (c.perform d input p).result).map
          (Event.inside (around ++ [Dispatcher.span c.operation input])))).records := by
  have hinside : Event.inside around ∘ Event.within (Dispatcher.span c.operation input) =
      Event.inside (around ++ [Dispatcher.span c.operation input]) := by
    funext e
    exact e.inside_within around _
  rw [Run.events_inside, events_of_answer hadmits h, List.map_map, hinside, List.map_append,
    Logging.records_append]
  rfl

/-- A success comes of an answer, and so does a failure that the backend reports. -/
theorem exists_answer_of_ok {v : c.Output} (h : (c.perform d input p).result = .ok v) :
    ∃ a, d.Admits input p ∧ c.answer? d.handle.backend p.past input.data.toBytes = some a := by
  obtain ⟨cs, q, hends⟩ := exists_ends h
  cases hends with
  | answered admits answer => exact ⟨_, admits, answer⟩

theorem exists_answer_of_failed {op : Operation} {code : Status} {partials : List Bytes}
    (h : (c.perform d input p).result = .error (.backend op code partials)) :
    ∃ a, d.Admits input p ∧ c.answer? d.handle.backend p.past input.data.toBytes = some a := by
  obtain ⟨cs, q, hends⟩ := exists_ends h
  cases hends with
  | answered admits answer => exact ⟨_, admits, answer⟩

theorem entries_of_refused (h : ¬ d.Admits input p) (emitted : Nat) :
    c.entries emitted (c.perform d input p).result = [] := by
  generalize hr : (c.perform d input p).result = r
  obtain ⟨cs, q, hends⟩ := exists_ends hr
  cases hends with
  | rejected => rfl
  | closed => rfl
  | unanswered admits => exact absurd admits h
  | panicked admits => exact absurd admits h
  | answered admits => exact absurd admits h

theorem aside_of_silent (hsilent : ∀ e ∈ c.meanwhile d.handle.backend p.past input.data.toBytes,
    e.target ≠ dispatchTarget) :
    (c.aside (.ofLevel cfg level s) around d input p).filter LogRecord.isRemark = [] := by
  refine List.filter_eq_nil_iff.mpr fun r hr => ?_
  obtain ⟨f, hf, htarget⟩ := Logging.target_of_mem_records hr
  obtain ⟨e, he, rfl⟩ := List.mem_map.mp hf
  rw [LogRecord.isRemark_of_target (htarget ▸ hsilent e he)]
  exact Bool.false_ne_true

section Debug

variable (hlevel : LogLevel.debug.atLeast level = true)
  (hfloor : LogLevel.debug.atLeast s.floor = true)
include hlevel hfloor

theorem isRemark_of_unasked (h : (c.perform d input p).journal.calls = []) :
    ∀ m ∈ ((Logging.ofLevel cfg level s).report
      ((c.perform d input).inside around p).journal.events).records, m.isRemark = false := by
  intro m hm
  rw [Run.events_inside] at hm
  rcases events_of_unasked h with hnone | ⟨f, hrejected⟩
  · rw [hnone] at hm
    obtain ⟨e, he, -⟩ := Logging.target_of_mem_records hm
    exact absurd he List.not_mem_nil
  · rw [hrejected, List.map_singleton, Event.inside_within,
      Logging.records_said hlevel hfloor rfl rfl rfl] at hm
    obtain rfl := List.mem_singleton.mp hm
    exact LogRecord.isRemark_of_start (c := 'R') rfl rfl (by decide) (by decide)

/-- Of what is said about an answer the host finds the remark that its result calls for. -/
theorem filter_records_concluded (o : DispatchOptions) (code : Status) :
    ((Logging.ofLevel cfg level s).report
        ((c.remarks a.chunks.length (c.concluded o a code)).map
          (Event.inside (around ++ [Dispatcher.span c.operation input])))).records.filter
        LogRecord.isRemark = c.entries a.chunks.length (c.concluded o a code) := by
  rcases c.concluded_cases o a code with ⟨v, hv⟩ | ⟨-, -, -, hmany⟩ | hfailed
  · rw [hv, remarks, List.map_singleton, Logging.records_completed hlevel hfloor]
    rfl
  · have hother : LogRecord.isRemark { LogRecord.ofEvent (.say dispatchTarget .warn
        (CodecError.malformedResult (.frameCount .videoFirstFrame a.chunks.length)).message [])
          with span := some "codec_invocation" } = false :=
      LogRecord.isRemark_of_start (c := 'M') rfl rfl (by decide) (by decide)
    rw [hmany, remarks_malformed, List.map_singleton,
      Logging.records_said hlevel hfloor rfl rfl rfl,
      List.filter_cons_of_neg (hother ▸ Bool.false_ne_true)]
    rfl
  · rw [hfailed, remarks, List.map_singleton, Logging.records_failed hlevel hfloor]
    rfl

theorem told_perform (cfg : LoggingConfig) (around : List Span) (c : Dispatch) (d : Dispatcher)
    (input : MediaBuffer) (p : State) :
    c.Told (.ofLevel cfg level s) d input p (c.aside (.ofLevel cfg level s) around d input p)
      ((c.perform d input).inside around p) where
  completed v hv := by
    rw [Run.result_inside] at hv
    obtain ⟨a, hadmits, ha⟩ := exists_answer_of_ok hv
    rw [records_perform hadmits ha, hv, remarks, List.map_singleton,
      Logging.records_completed hlevel hfloor]
  failed op code partials hfailed := by
    rw [Run.result_inside] at hfailed
    obtain ⟨a, hadmits, ha⟩ := exists_answer_of_failed hfailed
    obtain ⟨-, hcode, -, -, hkept⟩ := (failed_iff ha).mp hfailed
    refine ⟨a, ha, hcode, ?_, ?_⟩
    · rw [hkept, Dispatcher.kept]
      cases d.options.partialResults <;> rfl
    · rw [records_perform hadmits ha, hfailed, remarks, List.map_singleton,
        Logging.records_failed hlevel hfloor]
  unasked hcalls := by
    rw [Run.calls_inside] at hcalls
    exact isRemark_of_unasked hlevel hfloor hcalls
  alone hsilent a ha := by
    rw [Run.result_inside]
    by_cases hadmits : d.Admits input p
    · rw [records_perform hadmits ha, List.filter_append, aside_of_silent hsilent, List.nil_append]
      cases hending : a.ending with
      | panic =>
          rw [(panicked_iff ha).mpr ⟨hadmits, hending⟩]
          rfl
      | status code =>
          rw [result_of_status ha hadmits hending]
          exact filter_records_concluded hlevel hfloor d.options code
    · rw [entries_of_refused hadmits]
      have hcalls := ((c.ends_perform d input p).silent hadmits).1
      refine List.filter_eq_nil_iff.mpr fun m hm => ?_
      rw [isRemark_of_unasked hlevel hfloor hcalls m hm]
      exact Bool.false_ne_true

end Debug

end Told

end Dispatch

/-- A codec that complains and then fails, with two chunks handed over. -/
def Backend.complaining : Backend where
  stream _ _ bytes :=
    { chunks := [bytes, bytes]
      events := [.say "codec" .warn "out of memory" []]
      ending := .status 5 }
  firstFrame _ _ := {}
  getSize _ _ := {}

/-- Inside the span of a service, with both chunks kept. -/
theorem Dispatch.told_perform_complaining :
    let d : Dispatcher := ⟨⟨0, none, .complaining⟩, { partialResults := .preserve }⟩
    let p : State := .fresh ⟨"/", ⟨"linux", "x86_64"⟩, ⟨true, fun _ _ => ⟨[], .ok .complaining⟩⟩⟩
      .empty
    let input : Buffer := .ofBytes [1, 2, 3]
    let around := [Service.span "silk_encode_chunks" input]
    let c := chunks .silkEncode
    let l := Logging.ofLevel {} .debug ⟨.trace, none⟩
    let r := (c.perform d (.ofBuffer input)).inside around p
    LogLevel.debug.atLeast .debug = true ∧ LogLevel.debug.atLeast .trace = true ∧
      c.Told l d (.ofBuffer input) p (c.aside l around d (.ofBuffer input) p) r ∧
      (l.report r.journal.events).records =
        [{ level := .warn, target := "codec", message := "out of memory",
           span := some "codec_invocation" },
         Status.failureRecord 5 2 2] :=
  ⟨rfl, rfl, told_perform rfl rfl {} _ _ _ _ _, by decide⟩

end MediaCodec
