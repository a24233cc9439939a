/-
Numbering — a new handle is none of the old ones.

A handle is known by its number, and a handle is closed once its number is noted.  Numbers are given
out in order, so that opening makes a handle with a number that no earlier one has; and since a
number is noted only for a handle that there has been, the new handle is open
(`State.Numbered.open_new`).

What carries this is that all numbers a process has to do with have been given out: those of the
closed handles, and those in the cell and in the slot (`State.Numbered`).  Steps keep it as long as
the handles that they bring along have been made (`Step.numbered_perform`).
-/

import MediaCodec.Proofs.Process

namespace MediaCodec

/-- The handle has been made. -/
def State.Made (p : State) (h : Handle) : Prop := h.id < p.opened

/-- All handles that the process knows have been made. -/
structure State.Numbered (p : State) : Prop where
  closed : ∀ i ∈ p.closed, i < p.opened
  cell : ∀ d, p.cell.stored = some (.ok d) → p.Made d.handle
  slot : ∀ s, p.slot = some s → p.Made s.handle

namespace State.Numbered

variable {p q : State} {config : Except SetupError Config}

theorem fresh (machine : Machine) (environment : Environment) :
    (State.fresh machine environment).Numbered where
  closed _ h := absurd h List.not_mem_nil
  cell _ h := by cases h
  slot _ h := by cases h

/-- A handle that is made next is open. -/
theorem open_new (h : p.Numbered) (artifact : Option Artifact) (backend : Backend) :
    p.hasClosed ⟨p.opened, artifact, backend⟩ = false := by
  refine Bool.eq_false_iff.mpr fun hclosed => ?_
  have hmem : p.opened ∈ p.closed := List.contains_iff_mem.mp hclosed
  exact Nat.lt_irrefl _ (h.closed _ hmem)

theorem used (h : p.Numbered) {k : Handle} {cs : List Call} (u : Used k p cs q) : q.Numbered := by
  rw [u.kept]
  exact ⟨h.closed, h.cell, h.slot⟩

theorem closing (h : p.Numbered) {k : Handle} (hk : p.Made k) : (p.closing k).Numbered where
  closed i hi := by
    rcases List.mem_cons.mp hi with rfl | hi
    · exact hk
    · exact h.closed i hi
  cell := h.cell
  slot := h.slot

end State.Numbered

/-- A handle that is opened has the next number. -/
theorem Config.id_of_outcome {c : Config} {p : State} {h : Handle} (hopened : c.outcome p = .ok h) :
    h.id = p.opened := by
  rw [outcome] at hopened
  split at hopened
  · cases hopened
  · split at hopened
    · cases hopened
    · rw [← Except.ok.inj hopened]

theorem Dispatcher.id_of_outcome {config : Except SetupError Config} {p : State} {d : Dispatcher}
    (h : outcome config p = .ok d) : d.handle.id = p.opened ∧ handles config p = 1 := by
  obtain ⟨c, rfl, hopened, -⟩ := exists_of_outcome h
  rw [handles, Config.handles, hopened]
  exact ⟨Config.id_of_outcome hopened, rfl⟩

namespace State

variable {p : State} {config : Except SetupError Config}

theorem opened_le_sharing (p : State) (config : Except SetupError Config) :
    p.opened ≤ (p.sharing config).opened := by
  rw [sharing]
  split
  · exact Nat.le_refl _
  · exact Nat.le_add_right _ _

namespace Numbered

theorem made_shared (h : p.Numbered) {d : Dispatcher} (hd : p.shared config = .ok d) :
    (p.sharing config).Made d.handle := by
  cases hcell : p.cell.stored with
  | some r =>
      rw [sharing_of_stored hcell]
      rw [shared, hcell] at hd
      exact h.cell d (hcell.trans (congrArg some hd))
  | none =>
      rw [shared, hcell] at hd
      obtain ⟨hid, hone⟩ := Dispatcher.id_of_outcome hd
      rw [Made, sharing, hcell, hid]
      show p.opened < p.opened + Dispatcher.handles config p
      rw [hone]
      exact Nat.lt_succ_self _

theorem sharing (h : p.Numbered) (config : Except SetupError Config) :
    (p.sharing config).Numbered where
  closed i hi := by
    rw [closed_sharing] at hi
    exact Nat.lt_of_lt_of_le (h.closed i hi) (p.opened_le_sharing config)
  cell d hd := by
    rw [stored_sharing] at hd
    exact h.made_shared (Option.some.inj hd)
  slot s hs := by
    rw [slot_sharing] at hs
    exact Nat.lt_of_lt_of_le (h.slot s hs) (p.opened_le_sharing config)

theorem filling (h : p.Numbered) (config : Except SetupError Config) :
    (p.filling config).Numbered where
  closed := (h.sharing config).closed
  cell := (h.sharing config).cell
  slot s hs := by
    cases hshared : p.shared config with
    | error e =>
        rw [State.filling, hshared] at hs
        cases hs
    | ok d =>
        rw [State.filling, hshared] at hs
        obtain rfl := Option.some.inj hs
        exact h.made_shared hshared

end Numbered

end State

/-! ## Steps -/

namespace Step

/-- The handle that a step brings along, if it brings one, has been made. -/
def Brings (p : State) : Step → Prop
  | install s => p.Made s.handle
  | use h _ => p.Made h
  | global | initGlobal _ | init _ | close | codec _ | setVariable _ _ => True

variable {p : State}

theorem Does.numbered {k : Step} {q : State} {cs : List Call} (h : Does k p cs q)
    (hk : k.Brings p) (hp : p.Numbered) : q.Numbered := by
  cases h with
  | rests => exact hp
  | sets name value => exact ⟨hp.closed, hp.cell, hp.slot⟩
  | shares config asked => exact hp.sharing config
  | fills config asked free => exact hp.filling config
  | installs s asked free =>
      subst asked
      refine ⟨hp.closed, hp.cell, fun t ht => ?_⟩
      obtain rfl := Option.some.inj ht
      exact hk
  | closes h known isOpen =>
      rcases known with ⟨s, hslot, rfl⟩ | ⟨u, rfl⟩
      · exact hp.closing (hp.slot s hslot)
      · exact hp.closing hk
  | uses used => exact hp.used used
  | serves config asked free used => exact (hp.filling config).used used

/-- Whatever happens in a process, with handles that have been made, all handles that it knows have
been made. -/
theorem numbered_perform (k : Step) (hk : k.Brings p) (h : p.Numbered) :
    (k.perform p).after.Numbered := (k.does_perform p).numbered hk h

end Step

/-- Every state that a process gets into knows only handles that have been made, if its steps bring
along no others. -/
theorem History.numbered_run {steps : List Step} {p : State} (h : p.Numbered)
    (hsteps : ∀ e ∈ run Step.perform steps p, e.asked.Brings e.before) :
    ∀ e ∈ run Step.perform steps p, e.before.Numbered ∧ e.after.Numbered := by
  induction steps generalizing p with
  | nil => exact fun e he => absurd he List.not_mem_nil
  | cons k rest ih =>
      have hk : k.Brings p := hsteps ⟨k, p, k.perform p⟩ List.mem_cons_self
      have hafter := Step.numbered_perform k hk h
      intro e he
      rcases List.mem_cons.mp he with rfl | he
      · exact ⟨h, hafter⟩
      · exact ih hafter (fun f hf => hsteps f (List.mem_cons_of_mem _ hf)) e he

end MediaCodec
