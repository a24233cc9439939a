/-
Write-once slots — what is decided once in a process, and stays decided.

The cell of the shared service and the slot of the C callers are both filled at most once in a
run, and what fills them stays.  That is said first of any slot and any requests that do not
change it: in every history such a slot is filled by one episode at most, and all that is ever
found in it is what that episode put there (`settled_run`, by induction on the requests).

The rest is about single steps.  A load happens only in the step that fills the cell, so that
there is one load at most; what the cell is filled with is the outcome of opening the
configuration of that step; and a slot that is filled by anything but an installation is filled
from the cell.
-/

import MediaCodec.Proofs.Process

namespace MediaCodec

/-! ## Slots that are filled once -/

/-- Whether a slot was empty before an episode and is not empty after it. -/
def Episode.fills (slot : State → Option β) (e : Episode κ ε α) : Bool :=
  (slot e.before).isNone && (slot e.after).isSome

namespace History

/-- What is in the slot before an episode is in it from then on. -/
def Fixed (slot : State → Option β) (es : History κ ε α) : Prop :=
  ∀ pre e post, es = pre ++ e :: post → ∀ b, slot e.before = some b →
    ∀ later ∈ e :: post, slot later.after = some b

section Slot

variable {slot : State → Option β} {perform : κ → Run ε α}
  (hfix : ∀ k p b, slot p = some b → slot (perform k p).after = some b)
include hfix

theorem filled_run {ks : List κ} {p : State} {b : β} (hp : slot p = some b) :
    ∀ e ∈ run perform ks p, slot e.before = some b ∧ slot e.after = some b :=
  invariant_run (I := fun p => slot p = some b) (fun k p => hfix k p b) hp

theorem fixed_run (ks : List κ) (p : State) : Fixed slot (run perform ks p) := by
  intro pre e post hes b hb
  induction ks generalizing p pre with
  | nil => exact absurd hes (by simp [run])
  | cons k rest ih =>
      cases pre with
      | nil =>
          obtain ⟨rfl, rfl⟩ := List.cons.inj hes
          intro later hlater
          have hmem : later ∈ run perform (k :: rest) p := hlater
          exact (filled_run hfix hb later hmem).2
      | cons first pre =>
          obtain ⟨-, hrest⟩ := List.cons.inj hes
          exact ih _ _ hrest

/-- A filled slot is not filled again. -/
theorem fills_run_of_filled {ks : List κ} {p : State} {b : β} (hp : slot p = some b) :
    (run perform ks p).filter (Episode.fills slot) = [] := by
  refine List.filter_eq_nil_iff.mpr fun e he => ?_
  rw [Episode.fills, (filled_run hfix hp e he).1]
  exact Bool.false_ne_true

/-- A slot that is empty to begin with stays empty, or else one episode fills it, and nothing but
what that one put into it is ever found in it. -/
theorem settled_run {ks : List κ} {p : State} (hp : slot p = none) :
    (∀ e ∈ run perform ks p, slot e.after = none) ∨
      ∃ i b, (run perform ks p).filter (Episode.fills slot) = [i] ∧ slot i.after = some b ∧
        ∀ e ∈ run perform ks p, slot e.after = none ∨ slot e.after = some b := by
  induction ks generalizing p with
  | nil => exact .inl fun e he => absurd he List.not_mem_nil
  | cons k rest ih =>
      cases hafter : slot (perform k p).after with
      | some b =>
          have hfills : Episode.fills slot ⟨k, p, perform k p⟩ = true := by
            simp [Episode.fills, Episode.after, hp, hafter]
          refine .inr ⟨⟨k, p, perform k p⟩, b, ?_, hafter, fun e he => .inr ?_⟩
          · rw [run, List.filter_cons_of_pos hfills, fills_run_of_filled hfix hafter]
          · rcases List.mem_cons.mp he with rfl | he
            · exact hafter
            · exact (filled_run hfix hafter e he).2
      | none =>
          have hfills : ¬ Episode.fills slot ⟨k, p, perform k p⟩ = true := by
            simp [Episode.fills, Episode.after, hafter]
          rcases ih hafter with hnone | ⟨i, b, hi, hb, hall⟩
          · refine .inl fun e he => ?_
            rcases List.mem_cons.mp he with rfl | he
            · exact hafter
            · exact hnone e he
          · refine .inr ⟨i, b, ?_, hb, fun e he => ?_⟩
            · rw [run, List.filter_cons_of_neg hfills, hi]
            · rcases List.mem_cons.mp he with rfl | he
              · exact .inl hafter
              · exact hall e he

theorem countP_fills_run {ks : List κ} {p : State} (hp : slot p = none) :
    (run perform ks p).countP (Episode.fills slot) ≤ 1 := by
  rcases settled_run hfix hp with hnone | ⟨i, b, hi, -, -⟩
  · rw [List.countP_eq_zero.mpr fun e he => by simp [Episode.fills, hnone e he]]
    exact Nat.zero_le 1
  · rw [List.countP_eq_length_filter, hi]
    exact Nat.le_refl 1

end Slot

end History

/-! ## The steps of a process -/

/-- What the cell of a process holds. -/
def State.stored (p : State) : Option (Except CodecError Dispatcher) := p.cell.stored

namespace Step

variable {k : Step} {p q : State} {cs : List Call}

namespace Moves

/-- An outcome in the cell stays there. -/
theorem stored_of_stored (m : Moves k p cs q) {r : Except CodecError Dispatcher}
    (h : p.stored = some r) : q.stored = some r := by
  cases m with
  | keeps cell | installs _ _ _ cell => rw [State.stored, cell, ← State.stored, h]
  | shares config _ cell | fills config _ _ cell =>
      rw [State.stored, cell, State.sharing_of_stored h, ← State.stored, h]

/-- A service in the slot stays there. -/
theorem slot_of_slot (m : Moves k p cs q) {s : Service} (h : p.slot = some s) :
    q.slot = some s := by
  cases m with
  | keeps _ slot | shares _ _ _ slot => rw [slot, h]
  | fills _ _ free | installs _ _ free => exact absurd (free.symm.trans h) (by simp)

/-- What fills the cell is the outcome of opening the configuration of the step. -/
theorem outcome_of_stored (m : Moves k p cs q) {r : Except CodecError Dispatcher}
    (hp : p.stored = none) (hq : q.stored = some r) :
    ∃ config, k.config? p = some config ∧ r = Dispatcher.outcome config p := by
  cases m with
  | keeps cell | installs _ _ _ cell =>
      rw [State.stored, cell, ← State.stored, hp] at hq
      cases hq
  | shares config asked cell | fills config asked _ cell =>
      refine ⟨config, asked, ?_⟩
      rw [State.stored, cell, State.stored_sharing] at hq
      obtain rfl := Option.some.inj hq
      rw [State.shared, ← State.stored, hp]

/-- A slot that is filled otherwise than by an installation is filled from the cell. -/
theorem stored_of_slot (m : Moves k p cs q) (hk : ∀ s, k ≠ install s) (hp : p.slot = none)
    {s : Service} (hq : q.slot = some s) : q.stored = some (.ok s.dispatcher) := by
  cases m with
  | keeps _ slot | shares _ _ _ slot =>
      rw [slot, hp] at hq
      cases hq
  | installs s asked => exact absurd asked (hk s)
  | fills config _ _ cell slot =>
      rw [State.stored, cell, State.stored_sharing]
      rw [slot] at hq
      cases hshared : p.shared config with
      | error e =>
          rw [hshared] at hq
          cases hq
      | ok d =>
          rw [hshared] at hq
          obtain rfl := Option.some.inj hq
          rfl

/-- A step loads at most once, and only if it fills the cell. -/
theorem countP_isLoad_le (m : Moves k p cs q) :
    cs.countP Call.isLoad ≤ if p.stored.isNone && q.stored.isSome then 1 else 0 := by
  rw [List.countP_eq_length_filter]
  cases m with
  | keeps _ _ loads | installs _ _ _ _ _ loads =>
      rw [loads]
      exact Nat.zero_le _
  | shares config _ cell _ loads | fills config _ _ cell _ loads =>
      rw [loads, State.sharingLoads, ← State.stored]
      cases hp : p.stored with
      | some r => exact Nat.zero_le _
      | none =>
          have hq : q.stored.isSome = true := by rw [State.stored, cell, State.stored_sharing]; rfl
          rw [hq]
          rcases Dispatcher.loads_cases config p with h | ⟨path, told, h⟩
          · rw [h]
            exact Nat.zero_le _
          · rw [h]
            exact Nat.le_refl 1

end Moves

theorem stored_perform (k : Step) (p : State) (r : Except CodecError Dispatcher)
    (h : p.stored = some r) : (k.perform p).after.stored = some r :=
  (k.moves_perform p).stored_of_stored h

theorem slot_perform (k : Step) (p : State) (s : Service) (h : p.slot = some s) :
    (k.perform p).after.slot = some s :=
  (k.moves_perform p).slot_of_slot h

/-- Whether a step asks for the shared service itself. -/
def asksService : Step → Bool
  | global | initGlobal _ => true
  | _ => false

/-- A step that asks for the shared service is answered from the outcome that the process
shares. -/
theorem perform_of_asksService (h : k.asksService = true) (p : State) :
    ∃ config, (k.perform p).ComesTo
      (.ofExcept ((Service.ofShared (p.shared config)).map Reply.service))
      (p.sharingLoads config) (p.sharing config) := by
  cases k with
  | global => exact ⟨_, (Service.global_comesTo p).map Reply.service⟩
  | initGlobal c => exact ⟨_, (Service.initGlobal_comesTo c p).map Reply.service⟩
  | install | init | close | codec | use | setVariable => exact absurd h Bool.false_ne_true

/-- An installation succeeds on an empty slot only. -/
theorem slot_of_installed {s : Service}
    (h : ((install s).perform p).result = .ok (.installed true)) :
    p.slot = none ∧ ((install s).perform p).after.slot = some s := by
  cases hslot : p.slot with
  | some old =>
      have hran : ((Boundary.install s : Run ServiceError Bool) p).ComesTo (.ok false) [] p := by
        rw [Boundary.install_of_some s hslot]
        exact ⟨rfl, rfl, rfl⟩
      have hfalse := (hran.map_ok Reply.installed).result.symm.trans h
      cases hfalse
  | none =>
      have hran : ((Boundary.install s : Run ServiceError Bool) p).ComesTo (.ok true) []
          { p with slot := some s } := by
        rw [Boundary.install_of_none s hslot]
        exact ⟨rfl, rfl, rfl⟩
      exact ⟨rfl, congrArg State.slot (hran.map_ok Reply.installed).after⟩

end Step

namespace Episode

/-- Whether a service was installed in the slot. -/
def installed (e : Episode Step ServiceError Reply) : Bool :=
  match e.asked, e.ran.result with
  | .install _, .ok (.installed true) => true
  | _, _ => false

theorem asked_of_installed {e : Episode Step ServiceError Reply} (h : e.installed = true) :
    ∃ s, e.asked = .install s ∧ e.ran.result = .ok (.installed true) := by
  unfold installed at h
  split at h
  · next s hasked hresult => exact ⟨s, hasked, hresult⟩
  · cases h

/-- The episode put an outcome into the cell: that of opening the configuration under which its
step asks for what the process shares, with the options of that configuration. -/
structure Settles (i : Episode Step ServiceError Reply) (r : Except CodecError Dispatcher) :
    Prop where
  stored : i.after.stored = some r
  opened : ∃ config, i.asked.config? i.before = some config ∧
    (Dispatcher.ofConfig config i.before).result = .ofExcept r ∧
    ∀ d, r = .ok d → ∃ c, config = .ok c ∧ d.options = .ofSettings c.settings

end Episode

namespace History

/-- What is decided once in a run of a process. -/
structure WriteOnce (es : History Step ServiceError Reply) : Prop where
  /-- All steps together load at most once. -/
  loads : (calls es).countP Call.isLoad ≤ 1
  /-- An outcome in the cell stays there, whether it is a success or an error. -/
  cell : Fixed State.stored es
  /-- A service in the slot stays there. -/
  slot : Fixed State.slot es
  /-- Whoever asks for the shared service gets the outcome of the one episode that filled the
  cell: the same handle and options, or the same error. -/
  shared : ∀ e ∈ es, e.asked.asksService = true → ∃ i r,
    es.filter (Episode.fills State.stored) = [i] ∧ i.Settles r ∧ e.after.stored = some r ∧
      e.ran.result = .ofExcept ((Service.ofShared r).map Reply.service)
  /-- A service is installed at most once. -/
  installs : es.countP Episode.installed ≤ 1
  /-- A slot that is filled otherwise holds the handle and the options of the cell. -/
  borrowed : ∀ e ∈ es, (∀ s, e.asked ≠ .install s) → e.before.slot = none →
    ∀ s, e.after.slot = some s → e.after.stored = some (.ok s.dispatcher)

/-- Every episode of a run moves as its step does. -/
theorem moves_of_mem {steps : List Step} {p : State} {e : Episode Step ServiceError Reply}
    (he : e ∈ run Step.perform steps p) : e.asked.Moves e.before e.calls e.after := by
  have hran := ran_of_mem he
  rw [Episode.calls, Episode.after, hran]
  exact Step.moves_perform _ _

theorem settles_of_fills {steps : List Step} {p : State} {i : Episode Step ServiceError Reply}
    {r : Except CodecError Dispatcher} (hi : i ∈ run Step.perform steps p)
    (hfills : i.fills State.stored = true) (hafter : i.after.stored = some r) : i.Settles r := by
  have hbefore : i.before.stored = none := by
    rw [Episode.fills, Bool.and_eq_true, Option.isNone_iff_eq_none] at hfills
    exact hfills.1
  obtain ⟨config, hasked, rfl⟩ := (moves_of_mem hi).outcome_of_stored hbefore hafter
  refine ⟨hafter, config, hasked, (Dispatcher.ofConfig_comesTo config i.before).result, ?_⟩
  exact fun d hd => Dispatcher.options_of_outcome hd

/-- An episode that installs a service fills the slot. -/
theorem fills_of_installed {steps : List Step} {p : State} {e : Episode Step ServiceError Reply}
    (he : e ∈ run Step.perform steps p) (hinstalled : e.installed = true) :
    e.fills State.slot = true := by
  have hran := ran_of_mem he
  obtain ⟨s, hasked, hresult⟩ := Episode.asked_of_installed hinstalled
  rw [hran, hasked] at hresult
  obtain ⟨hbefore, hafter⟩ := Step.slot_of_installed hresult
  rw [Episode.fills, Episode.after, hran, hasked, hbefore, hafter]
  rfl

/-- There are at most as many loads as episodes that fill the cell. -/
theorem countP_isLoad_le {es : History Step ServiceError Reply}
    (h : ∀ e ∈ es, e.asked.Moves e.before e.calls e.after) :
    (calls es).countP Call.isLoad ≤ es.countP (Episode.fills State.stored) := by
  induction es with
  | nil => exact Nat.le_refl 0
  | cons e rest ih =>
      have hhead := (h e List.mem_cons_self).countP_isLoad_le
      have htail := ih fun x hx => h x (List.mem_cons_of_mem e hx)
      rw [calls_cons, List.countP_append, List.countP_cons, Episode.fills]
      omega

/-- Whoever asks for the shared service gets what the one episode that filled the cell put
there. -/
theorem shared_of_mem {steps : List Step} {p : State} (hcell : p.stored = none)
    {e : Episode Step ServiceError Reply} (he : e ∈ run Step.perform steps p)
    (hasks : e.asked.asksService = true) :
    ∃ i r, (run Step.perform steps p).filter (Episode.fills State.stored) = [i] ∧ i.Settles r ∧
      e.after.stored = some r ∧
      e.ran.result = .ofExcept ((Service.ofShared r).map Reply.service) := by
  have hran := ran_of_mem he
  obtain ⟨config, hcomes⟩ := Step.perform_of_asksService hasks e.before
  have hafter : e.after.stored = some (e.before.shared config) := by
    rw [Episode.after, hran, hcomes.after]
    exact State.stored_sharing
  rcases settled_run Step.stored_perform hcell with hnone | ⟨i, r, hi, hir, hall⟩
  · rw [hnone e he] at hafter
    cases hafter
  · have hr : e.after.stored = some r := by
      rcases hall e he with h | h
      · rw [h] at hafter
        cases hafter
      · exact h
    obtain rfl := Option.some.inj (hr.symm.trans hafter)
    obtain ⟨himem, hifills⟩ := List.mem_filter.mp (hi ▸ List.mem_singleton_self i)
    exact ⟨i, _, hi, settles_of_fills himem hifills hir, hr, by rw [hran, hcomes.result]⟩

/-- In every run of a process that begins with an empty cell and an empty slot, both are filled
at most once and for good, and one load at most is made. -/
theorem writeOnce_run (steps : List Step) (p : State) (hcell : p.cell.stored = none)
    (hslot : p.slot = none) : WriteOnce (run Step.perform steps p) := by
  refine ⟨?_, fixed_run Step.stored_perform steps p, fixed_run Step.slot_perform steps p, ?_, ?_, ?_⟩
  · calc (calls (run Step.perform steps p)).countP Call.isLoad
        ≤ (run Step.perform steps p).countP (Episode.fills State.stored) :=
          countP_isLoad_le fun e he => moves_of_mem he
      _ ≤ 1 := countP_fills_run Step.stored_perform hcell
  · intro e he hasks
    exact shared_of_mem hcell he hasks
  · calc (run Step.perform steps p).countP Episode.installed
        ≤ (run Step.perform steps p).countP (Episode.fills State.slot) :=
          List.countP_mono_left fun e he => fills_of_installed he
      _ ≤ 1 := countP_fills_run Step.slot_perform hslot
  · intro e he hasked hbefore s hafter
    exact (moves_of_mem he).stored_of_slot hasked hbefore hafter

theorem writeOnce_run_faulty :
    let loader : Loader := ⟨true, fun _ _ => ⟨[], .ok .faulty⟩⟩
    let p : State := .fresh ⟨"/", ⟨"linux", "x86_64"⟩, loader⟩ .empty
    p.cell.stored = none ∧ p.slot = none ∧
      WriteOnce (run Step.perform
        [.setVariable "LAGRANGE_CODEC_MAX_INPUT_BYTES" (some [52]),
         .codec (.stream .audioToPcm ⟨some (.ofBytes [1, 2]), 2⟩ true), .global, .init none,
         .initGlobal ⟨{}, ⟨"macos", "arm64"⟩, loader⟩, .install (.ofHandle ⟨7, none, .faulty⟩ {}),
         .close] p) :=
  ⟨rfl, rfl, writeOnce_run _ _ rfl rfl⟩

end History

end MediaCodec
