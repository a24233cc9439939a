/-
Settling — the life of a cell, whatever is asked of it.

A cell can be looked at, asked whether it is filled, and asked for its outcome by somebody who has
an initializer at hand.  Initializers work on a world of their own, which a panic does not restore,
and each may return a value, return an error, or panic.  To see which of them run, each counts its
runs (`counted`).

There is one point at which everything changes (`Cell.course_run`).  Until then the cell is empty,
every initializer that comes runs and panics, and the panic reaches whoever brought it.  The first
initializer that returns settles the cell, with an error as well as with a value.  After it no
initializer runs, and everybody is told the same.  Often that point never comes.
-/

import MediaCodec.Cell

namespace MediaCodec

namespace Cell

/-! ## What is asked of a cell -/

/-- What can be asked of a cell. -/
inductive Access (ε α σ : Type)
  | get
  | isInitialized
  | getOrInit (init : σ → Attempt ε α × σ)

/-- What is answered. -/
inductive Reply (ε α : Type)
  | stored (r : Option (Except ε α))
  | filled (b : Bool)
  | outcome (r : Attempt ε α)

/-- One access as it went. -/
structure Visit (ε α σ : Type) where
  access : Access ε α σ
  before : Cell ε α
  world : σ
  reply : Reply ε α
  /-- How often an initializer ran. -/
  runs : Nat
  after : Cell ε α
  worldAfter : σ

/-- The same initializer, which also counts its runs. -/
def counted (init : σ → Attempt ε α × σ) : σ × Nat → Attempt ε α × σ × Nat := fun s =>
  ((init s.1).1, (init s.1).2, s.2 + 1)

namespace Access

/-- Asks a cell. -/
def perform (c : Cell ε α) (s : σ) : Access ε α σ → Visit ε α σ
  | get => ⟨.get, c, s, .stored c.get, 0, c, s⟩
  | isInitialized => ⟨.isInitialized, c, s, .filled c.isInitialized, 0, c, s⟩
  | getOrInit init =>
    let (r, after, world, runs) := c.getOrInit (counted init) (s, 0)
    ⟨.getOrInit init, c, s, .outcome r, runs, after, world⟩

/-- What a filled cell answers. -/
def recalled (r : Except ε α) : Access ε α σ → Reply ε α
  | get => .stored (some r)
  | isInitialized => .filled true
  | getOrInit _ => .outcome (.ofExcept r)

/-- What an empty cell answers that stays empty. -/
def unanswered : Access ε α σ → Reply ε α
  | get => .stored none
  | isInitialized => .filled false
  | getOrInit _ => .outcome .panic

end Access

/-- Asks a cell one thing after another. -/
def run : List (Access ε α σ) → Cell ε α → σ → List (Visit ε α σ)
  | [], _, _ => []
  | a :: rest, c, s =>
    let v := a.perform c s
    v :: run rest v.after v.worldAfter

namespace Visit

/-- The cell was empty and stays so.  An initializer ran and panicked, and what it did to its world
remains. -/
structure Waits (v : Visit ε α σ) : Prop where
  before : v.before.stored = none
  after : v.after.stored = none
  reply : v.reply = v.access.unanswered
  panicked : ∀ init, v.access = .getOrInit init →
    v.runs = 1 ∧ init v.world = (.panic, v.worldAfter)
  silent : (∀ init, v.access ≠ .getOrInit init) → v.runs = 0 ∧ v.worldAfter = v.world

/-- The cell was empty, and the initializer that came along returned. -/
structure Settles (v : Visit ε α σ) (r : Except ε α) : Prop where
  before : v.before.stored = none
  after : v.after.stored = some r
  reply : v.reply = .outcome (.ofExcept r)
  runs : v.runs = 1
  returned : ∃ init, v.access = .getOrInit init ∧ init v.world = (.ofExcept r, v.worldAfter)

/-- The cell was filled; no initializer ran, and all that was asked is answered by what it holds. -/
structure Recalls (v : Visit ε α σ) (r : Except ε α) : Prop where
  before : v.before.stored = some r
  after : v.after.stored = some r
  reply : v.reply = v.access.recalled r
  runs : v.runs = 0
  worldAfter : v.worldAfter = v.world

end Visit

/-! ## One access -/

section Step

variable {c : Cell ε α} {r : Except ε α}

theorem perform_getOrInit_of_stored (h : c.stored = some r) (init : σ → Attempt ε α × σ) (s : σ) :
    (Access.getOrInit init).perform c s =
      ⟨.getOrInit init, c, s, .outcome (.ofExcept r), 0, c, s⟩ := by
  rw [Access.perform, getOrInit_of_stored _ _ h]

theorem perform_getOrInit_of_empty (h : c.stored = none) (init : σ → Attempt ε α × σ) (s : σ) :
    (Access.getOrInit init).perform c s =
      ⟨.getOrInit init, c, s, .outcome (init s).1, 1, ⟨(init s).1.returned?⟩, (init s).2⟩ := by
  rw [Access.perform, getOrInit_of_empty _ _ h]
  rfl

theorem perform_of_stored (h : c.stored = some r) (a : Access ε α σ) (s : σ) :
    (a.perform c s).Recalls r := by
  cases a with
  | get => exact ⟨h, h, congrArg Reply.stored h, rfl, rfl⟩
  | isInitialized => exact ⟨h, h, congrArg Reply.filled (isInitialized_of_stored h), rfl, rfl⟩
  | getOrInit init =>
      rw [perform_getOrInit_of_stored h]
      exact ⟨h, h, rfl, rfl, rfl⟩

/-- Only an initializer that returns settles an empty cell. -/
theorem perform_of_empty (h : c.stored = none) (a : Access ε α σ) (s : σ) :
    (a.perform c s).Waits ∨ ∃ r, (a.perform c s).Settles r := by
  cases a with
  | get => exact .inl ⟨h, h, congrArg Reply.stored h, nofun, fun _ => ⟨rfl, rfl⟩⟩
  | isInitialized =>
      exact .inl ⟨h, h, congrArg Reply.filled (isInitialized_of_empty h), nofun,
        fun _ => ⟨rfl, rfl⟩⟩
  | getOrInit init =>
      rw [perform_getOrInit_of_empty h]
      cases hended : (init s).1.returned? with
      | none =>
          have hpanic : (init s).1 = .panic := Attempt.returned?_eq_none_iff.mp hended
          refine .inl ⟨h, rfl, congrArg Reply.outcome hpanic, ?_, fun hne => absurd rfl (hne init)⟩
          rintro _ ⟨⟩
          exact ⟨rfl, Prod.ext hpanic rfl⟩
      | some r =>
          have hreturned : (init s).1 = .ofExcept r := Attempt.returned?_eq_some_iff.mp hended
          exact .inr ⟨r, h, rfl, congrArg Reply.outcome hreturned, rfl, init, rfl,
            Prod.ext hreturned rfl⟩

end Step

/-! ## A whole run -/

section Run

variable {c : Cell ε α} {r : Except ε α}

/-- What a filled cell holds is all that is ever heard of it. -/
theorem recalls_run (h : c.stored = some r) (asked : List (Access ε α σ)) (s : σ) :
    ∀ v ∈ run asked c s, v.Recalls r := by
  induction asked generalizing c s with
  | nil => exact fun v hv => absurd hv List.not_mem_nil
  | cons a rest ih =>
      have hfirst := perform_of_stored h a s
      intro v hv
      rcases List.mem_cons.mp hv with rfl | hv
      · exact hfirst
      · exact ih hfirst.after _ v hv

theorem access_perform (a : Access ε α σ) (c : Cell ε α) (s : σ) : (a.perform c s).access = a := by
  cases a with
  | get | isInitialized | getOrInit init => rfl

theorem map_access_run (asked : List (Access ε α σ)) (c : Cell ε α) (s : σ) :
    (run asked c s).map Visit.access = asked := by
  induction asked generalizing c s with
  | nil => rfl
  | cons a rest ih => rw [run, List.map_cons, access_perform, ih]

/-- How the visits of a cell go that is empty at first. -/
inductive Settled : List (Visit ε α σ) → Prop
  /-- No initializer has returned. -/
  | waiting {vs : List (Visit ε α σ)} (all : ∀ v ∈ vs, v.Waits) : Settled vs
  /-- An initializer returned, the first to do so and the last to run. -/
  | once (pre : List (Visit ε α σ)) {v : Visit ε α σ} (post : List (Visit ε α σ)) {r : Except ε α}
      (earlier : ∀ u ∈ pre, u.Waits) (here : v.Settles r) (later : ∀ u ∈ post, u.Recalls r) :
      Settled (pre ++ v :: post)

namespace Settled

variable {v : Visit ε α σ} {vs : List (Visit ε α σ)}

theorem cons (first : v.Waits) (h : Settled vs) : Settled (v :: vs) := by
  cases h with
  | waiting all => exact .waiting (List.forall_mem_cons.mpr ⟨first, all⟩)
  | once pre post earlier here later =>
      exact .once (v :: pre) post (List.forall_mem_cons.mpr ⟨first, earlier⟩) here later

/-- Whether an initializer runs depends on what it comes upon and on nothing else. -/
theorem runs_of_mem (h : Settled vs) (hv : v ∈ vs) {init : σ → Attempt ε α × σ}
    (hinit : v.access = .getOrInit init) :
    v.runs = if v.before.isInitialized then 0 else 1 := by
  have hwaits : v.Waits → v.runs = if v.before.isInitialized then 0 else 1 := by
    intro w
    rw [isInitialized_of_empty w.before]
    exact (w.panicked init hinit).1
  cases h with
  | waiting all => exact hwaits (all v hv)
  | once pre post earlier here later =>
      rcases List.mem_append.mp hv with hv | hv
      · exact hwaits (earlier v hv)
      · rcases List.mem_cons.mp hv with rfl | hv
        · rw [isInitialized_of_empty here.before]
          exact here.runs
        · rw [isInitialized_of_stored (later v hv).before]
          exact (later v hv).runs

end Settled

/-- An empty cell that is visited waits until an initializer returns, if one ever does. -/
theorem settled_run (h : c.stored = none) (asked : List (Access ε α σ)) (s : σ) :
    Settled (run asked c s) := by
  -- A visit that waits leaves an empty cell to the rest, and one that settles it a filled one.
  induction asked generalizing c s with
  | nil => exact .waiting fun v hv => absurd hv List.not_mem_nil
  | cons a rest ih =>
      rcases perform_of_empty h a s with hwaits | ⟨r, hsettles⟩
      · exact .cons hwaits (ih hwaits.after _)
      · exact .once [] _ (fun u hu => absurd hu List.not_mem_nil) hsettles
          (recalls_run hsettles.after rest _)

/-- What becomes of everything that is asked of a cell. -/
structure Course (asked : List (Access ε α σ)) (vs : List (Visit ε α σ)) : Prop where
  asked : vs.map Visit.access = asked
  /-- An initializer runs, once, just where it comes upon an empty cell. -/
  runs : ∀ v ∈ vs, ∀ init, v.access = .getOrInit init →
    v.runs = if v.before.isInitialized then 0 else 1
  settled : Settled vs

/-- Every run on an empty cell: initializers run and panic until one returns, with a value or with an
error; that outcome is what everybody is told from then on, and no initializer runs again. -/
theorem course_run (h : c.stored = none) (asked : List (Access ε α σ)) (s : σ) :
    Course asked (run asked c s) where
  asked := map_access_run asked c s
  runs _ hv _ hinit := (settled_run h asked s).runs_of_mem hv hinit
  settled := settled_run h asked s

/-- A panic is not kept and a failure is: the world is a count that each initializer adds to. -/
theorem course_run_failing :
    let asked : List (Access String Nat Nat) :=
      [.get, .getOrInit fun n => (.panic, n + 1), .isInitialized,
        .getOrInit fun n => (.error "missing", n + 10), .getOrInit fun n => (.ok n, n + 100), .get]
    let vs := run asked .empty 0
    (empty : Cell String Nat).stored = none ∧ Course asked vs ∧
      vs.map Visit.runs = [0, 1, 0, 1, 0, 0] ∧
      vs.map Visit.reply =
        [.stored none, .outcome .panic, .filled false, .outcome (.error "missing"),
          .outcome (.error "missing"), .stored (some (.error "missing"))] :=
  ⟨rfl, course_run rfl _ _, rfl, rfl⟩

end Run

end Cell

end MediaCodec
