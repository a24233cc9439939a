/-
Containment — a panic of the receiver stays inside the call of the library.

The receiver of chunks is code of the host, and it may panic at any of its calls.  `Sink.Fares` says
how it fares with chunks that come one after another: it takes some of them, and perhaps panics at
the next.  Whatever happens during a streaming call can be read off this
(`Receipt.holds_foldl_receive`). The receiver is called with the chunks that it takes and with the
one it panics at, and with no other; the call is answered all the same, and its status is the
export's own unless that is a success.

The induction is on the calls of the callback, most of which may be useless.  What carries it is how
often the receiver has been called before, since that is what a receiver may go by.  Which calls of
the callback reach the receiver is not assumed but read off its count (`Receipt.heard`).

What a receiver would have done with the chunks behind its panic is not found out: another one that
does the same with the chunks it hears leads to the same run (`Contained.deaf`).
-/

import MediaCodec.Proofs.Marshalling

namespace MediaCodec

/-! ## How a receiver fares -/

namespace Sink

/-- How a receiver that has been called `n` times fares with the chunks that come next: which of
them it takes, and which one it panics at, if it does. -/
inductive Fares (sink : Sink) : Nat → List Bytes → List Bytes → Option Bytes → Prop
  /-- No chunk comes any more. -/
  | done {n : Nat} : Fares sink n [] [] none
  /-- It takes the next chunk, and so to the rest. -/
  | takes {n : Nat} {chunk : Bytes} {later taken : List Bytes} {fatal : Option Bytes}
      (calm : sink (n + 1) chunk = false) (rest : Fares sink (n + 1) later taken fatal) :
      Fares sink n (chunk :: later) (chunk :: taken) fatal
  /-- It panics at the next chunk, and the rest does not reach it. -/
  | panics {n : Nat} {chunk : Bytes} {later : List Bytes} (panic : sink (n + 1) chunk = true) :
      Fares sink n (chunk :: later) [] (some chunk)

/-- Two receivers that have been called `n` times do the same with the chunks that come next. -/
def Agree (sink other : Sink) (n : Nat) (chunks : List Bytes) : Prop :=
  ∀ k chunk, chunks[k]? = some chunk → other (n + k + 1) chunk = sink (n + k + 1) chunk

variable {sink other : Sink} {n : Nat} {chunk : Bytes} {chunks taken : List Bytes}
  {fatal : Option Bytes}

theorem exists_fares (sink : Sink) (n : Nat) (chunks : List Bytes) :
    ∃ taken fatal, sink.Fares n chunks taken fatal := by
  induction chunks generalizing n with
  | nil => exact ⟨[], none, .done⟩
  | cons chunk later ih =>
      cases h : sink (n + 1) chunk with
      | true => exact ⟨[], some chunk, .panics h⟩
      | false =>
          obtain ⟨taken, fatal, hlater⟩ := ih (n + 1)
          exact ⟨chunk :: taken, fatal, .takes h hlater⟩

theorem agree_cons_iff : sink.Agree other n (chunk :: chunks) ↔
    other (n + 1) chunk = sink (n + 1) chunk ∧ sink.Agree other (n + 1) chunks := by
  constructor
  · intro h
    refine ⟨h 0 chunk rfl, fun k later hlater => ?_⟩
    have hk := h (k + 1) later hlater
    rwa [← Nat.add_assoc, Nat.add_right_comm n k 1] at hk
  · rintro ⟨hfirst, hrest⟩ k later hlater
    cases k with
    | zero =>
        obtain rfl := Option.some.inj hlater
        exact hfirst
    | succ k =>
        have hk := hrest k later hlater
        rwa [Nat.add_right_comm n 1 k, Nat.add_assoc n k 1] at hk

/-- How a receiver fares depends on the calls that it hears, and on nothing else. -/
theorem Fares.of_agree (h : sink.Fares n chunks taken fatal)
    (hagree : sink.Agree other n (taken ++ fatal.toList)) : other.Fares n chunks taken fatal := by
  induction h with
  | done => exact .done
  | takes calm _ ih =>
      obtain ⟨hfirst, hrest⟩ := agree_cons_iff.mp hagree
      exact .takes (hfirst.trans calm) (ih hrest)
  | panics panic =>
      obtain ⟨hfirst, -⟩ := agree_cons_iff.mp hagree
      exact .panics (hfirst.trans panic)

end Sink

/-! ## What a receiver holds -/

namespace Receipt

/-- The receiver holds the chunks that it took; it was called with these and the one it panicked
at. -/
structure Holds (r : Receipt) (taken : List Bytes) (fatal : Option Bytes) : Prop where
  kept : r.kept.toList = taken
  offered : r.offered = (taken ++ fatal.toList).length
  panicked : r.panicked = fatal.isSome

/-- The chunks that the receiver is called with in calls of the callback: those at which the count
of its calls goes up. -/
def heard (sink : Sink) (r : Receipt) : List CallbackInvocation → List Bytes
  | [] => []
  | i :: rest =>
    if (r.receive sink i).offered = r.offered then heard sink (r.receive sink i) rest
    else i.content :: heard sink (r.receive sink i) rest

variable {sink : Sink} {r r' : Receipt} {i : CallbackInvocation} {held taken : List Bytes}
  {fatal : Option Bytes}

theorem Holds.eq (h : r.Holds taken fatal) (h' : r'.Holds taken fatal) : r = r' :=
  ext_toList (h.kept.trans h'.kept.symm) (h.offered.trans h'.offered.symm)
    (h.panicked.trans h'.panicked.symm)

theorem receive_of_useless (hi : i.isChunk = false) : r.receive sink i = r := by
  rw [receive, hi]
  rfl

theorem receive_of_panicked (hr : r.panicked = true) : r.receive sink i = r := by
  rw [receive, offer, if_pos hr, ite_self]

/-- A call of the callback that makes no difference is one that the receiver does not hear of. -/
theorem heard_cons_of_eq (h : r.receive sink i = r) (rest : List CallbackInvocation) :
    heard sink r (i :: rest) = heard sink r rest := by
  rw [heard, h, if_pos rfl]

theorem heard_cons_of_called (h : (r.receive sink i).offered = r.offered + 1)
    (rest : List CallbackInvocation) :
    heard sink r (i :: rest) = i.content :: heard sink (r.receive sink i) rest := by
  rw [heard, if_neg (by omega)]

/-- After a panic the receiver is not called again, however often the callback is. -/
theorem unheard_of_panicked (hr : r.panicked = true) (is : List CallbackInvocation) :
    is.foldl (receive sink) r = r ∧ heard sink r is = [] := by
  induction is with
  | nil => exact ⟨rfl, rfl⟩
  | cons i rest ih =>
      have hsame : r.receive sink i = r := receive_of_panicked hr
      rw [List.foldl_cons, hsame, heard_cons_of_eq hsame]
      exact ih

theorem receive_of_calm (h : r.Holds held none) (hi : i.isChunk = true)
    (hcalm : sink (held.length + 1) i.content = false) :
    r.receive sink i = { r with kept := r.kept.push i.content, offered := r.offered + 1 } := by
  have hoffered : r.offered = held.length := by simpa using h.offered
  simp [receive, hi, offer, h.panicked, hoffered, hcalm]

theorem receive_of_panic (h : r.Holds held none) (hi : i.isChunk = true)
    (hpanic : sink (held.length + 1) i.content = true) :
    r.receive sink i = { r with offered := r.offered + 1, panicked := true } := by
  have hoffered : r.offered = held.length := by simpa using h.offered
  simp [receive, hi, offer, h.panicked, hoffered, hpanic]

theorem Holds.take (h : r.Holds held none) (chunk : Bytes) :
    Holds { r with kept := r.kept.push chunk, offered := r.offered + 1 } (held ++ [chunk])
      none where
  kept := by simp [h.kept]
  offered := by simp [h.offered]
  panicked := h.panicked

theorem Holds.panic (h : r.Holds held none) (chunk : Bytes) :
    Holds { r with offered := r.offered + 1, panicked := true } held (some chunk) where
  kept := h.kept
  offered := by simp [h.offered]
  panicked := rfl

/-- The receiver's side of a streaming call, from a point at which it has not panicked. -/
theorem holds_foldl_receive (h : r.Holds held none) (is : List CallbackInvocation)
    (hfares : sink.Fares held.length (CallbackInvocation.chunks is) taken fatal) :
    (is.foldl (receive sink) r).Holds (held ++ taken) fatal ∧
      heard sink r is = taken ++ fatal.toList := by
  induction is generalizing r held taken with
  | nil =>
      cases hfares
      rw [List.append_nil]
      exact ⟨h, rfl⟩
  | cons i rest ih =>
      rw [List.foldl_cons]
      cases hi : i.isChunk with
      | false =>
          have hsame : r.receive sink i = r := receive_of_useless hi
          have hchunks : CallbackInvocation.chunks (i :: rest) =
              CallbackInvocation.chunks rest := by
            simp [CallbackInvocation.chunks, hi]
          rw [hchunks] at hfares
          rw [hsame, heard_cons_of_eq hsame]
          exact ih h hfares
      | true =>
          have hchunks : CallbackInvocation.chunks (i :: rest) =
              i.content :: CallbackInvocation.chunks rest := by
            simp [CallbackInvocation.chunks, hi]
          rw [hchunks] at hfares
          cases hfares with
          | takes calm later =>
              have hreceive := receive_of_calm h hi calm
              have hlength : (held ++ [i.content]).length = held.length + 1 := List.length_append
              rw [← hlength] at later
              obtain ⟨hholds, hheard⟩ := ih (h.take i.content) later
              rw [List.append_assoc, List.singleton_append] at hholds
              rw [heard_cons_of_called (by rw [hreceive]), hreceive, hheard]
              exact ⟨hholds, rfl⟩
          | panics panic =>
              -- The induction hypothesis is about receivers that have not panicked, and this one
              -- will not be called again.
              have hreceive := receive_of_panic h hi panic
              obtain ⟨hfold, hunheard⟩ := unheard_of_panicked (h.panic i.content).panicked rest
              rw [heard_cons_of_called (by rw [hreceive]), hreceive, hfold, hunheard,
                List.append_nil]
              exact ⟨h.panic i.content, rfl⟩

end Receipt

/-! ## Streaming calls -/

namespace NativeLibrary

variable {l : NativeLibrary} {s : Streaming} {sink : Sink} {input : Buffer} {p : State}
  {is : List CallbackInvocation} {code : Status}

/-- An export's failure stands; only a success is overruled by a panic of the receiver. -/
theorem streamStatus_eq (panicked : Bool) (code : Status) :
    streamStatus panicked code =
      if code ≠ Status.ok then code else if panicked then Status.sinkPanicked else Status.ok := by
  by_cases hok : code = Status.ok
  · cases panicked <;> simp [streamStatus, hok]
  · simp [streamStatus, hok]

/-- A streaming call of an export that called back as `is` says and returned `code`, under a
receiver that took some chunks and perhaps panicked at one. -/
structure Contained (l : NativeLibrary) (s : Streaming) (sink : Sink) (input : Buffer) (p : State)
    (is : List CallbackInvocation) (code : Status) (taken : List Bytes) (fatal : Option Bytes) :
    Prop where
  /-- Of the chunks that were handed over the receiver took these, and panicked at that one. -/
  fares : sink.Fares 0 (CallbackInvocation.chunks is) taken fatal
  /-- It was called with these and no others. -/
  heard : Receipt.heard sink {} is = taken ++ fatal.toList
  /-- The call is answered, whether the receiver panicked or not, and has called the export once. -/
  answer : ∃ receipt : Receipt, receipt.Holds taken fatal ∧ ∀ ε,
    ((l.stream s sink input : Run ε _) p).ComesTo
      (.ok (if code ≠ Status.ok then code
        else if fatal.isSome then Status.sinkPanicked else Status.ok, receipt))
      [.invoke s.operation input.toBytes] (p.called (.invoke s.operation input.toBytes))
  /-- A panic is told once. -/
  told : ∀ ε, ((l.stream s sink input : Run ε _) p).journal.events =
    if fatal.isSome then [sinkPanic] else []
  /-- What the receiver would do in other calls makes no difference. -/
  deaf : ∀ other : Sink, sink.Agree other 0 (taken ++ fatal.toList) →
    ∀ ε, (l.stream s other input : Run ε _) p = l.stream s sink input p

/-- A panic of the receiver does not leave a streaming call. -/
structure Contains (l : NativeLibrary) (s : Streaming) (sink : Sink) (input : Buffer) (p : State) :
    Prop where
  /-- However the export calls back, and whatever it returns. -/
  contained : input.length ≤ Status.maxLength → ∀ is code,
    l.exports.stream s p.past input.toBytes = (is, code) →
    ∃ taken fatal, Contained l s sink input p is code taken fatal
  /-- An input that does not fit a C `int` never reaches the export. -/
  tooLong : Status.maxLength < input.length →
    ∀ ε, (l.stream s sink input : Run ε _) p = ⟨[], .ok (Status.inputTooLarge, {}), p⟩

theorem stream_of_tooLong (sink : Sink) (hlong : Status.maxLength < input.length) :
    (l.stream s sink input : Run ε _) p = ⟨[], .ok (Status.inputTooLarge, {}), p⟩ := by
  rw [stream, if_pos hlong]
  rfl

theorem exists_contained (hfits : input.length ≤ Status.maxLength)
    (h : l.exports.stream s p.past input.toBytes = (is, code)) (sink : Sink) :
    ∃ taken fatal, Contained l s sink input p is code taken fatal := by
  obtain ⟨taken, fatal, hfares⟩ := sink.exists_fares 0 (CallbackInvocation.chunks is)
  have hstart : Receipt.Holds {} [] none := ⟨rfl, rfl, rfl⟩
  obtain ⟨hholds, hheard⟩ := Receipt.holds_foldl_receive hstart is hfares
  rw [List.nil_append] at hholds
  refine ⟨taken, fatal, hfares, hheard, ⟨_, hholds, fun ε => ?_⟩, fun ε => ?_, ?_⟩
  · rw [stream_of_fits sink hfits h, hholds.panicked, streamStatus_eq]
    cases fatal <;> exact ⟨rfl, rfl, rfl⟩
  · rw [stream_of_fits sink hfits h, hholds.panicked]
    cases fatal <;> rfl
  · intro other hagree ε
    have hother := (Receipt.holds_foldl_receive hstart is (hfares.of_agree hagree)).1
    rw [List.nil_append] at hother
    rw [stream_of_fits other hfits h, stream_of_fits sink hfits h, hother.eq hholds]

/-- Every streaming call contains the panics of its receiver. -/
theorem contains_stream (l : NativeLibrary) (s : Streaming) (sink : Sink) (input : Buffer)
    (p : State) : l.Contains s sink input p where
  contained hfits _ _ h := exists_contained hfits h sink
  tooLong hlong _ := stream_of_tooLong sink hlong

/-- A receiver that panics at its second call hears two of three chunks. -/
example : Receipt.heard (fun n _ => n == 2) {}
    [⟨true, some [1], 1⟩, ⟨true, none, 1⟩, ⟨true, some [2], 1⟩, ⟨true, some [3], 1⟩] =
      [[1], [2]] := by decide

end NativeLibrary

end MediaCodec
